import QueryLint.Proofs.Query.LikeFindings
import QueryLint.Proofs.Query.Order
import QueryLint.Proofs.Schema.Tables

/-!
# Complaints about queries that look alike

A reader who does not care about the case of letters or about line breaks expects the same
complaints about two queries that differ in nothing else.

* `check_spacing`: other white space between words changes places and nothing else.
* `check_letterCase`: other case of letters changes nothing, not even places, but for complaints
  that repeat a name, and the same tables are unknown.

Grouped expressions are left out of both.  They are looked for letter by letter in the list
behind SELECT.  The other exceptions to the second are names that are spelled differently in
the two queries.  A table that occurs in two spellings is looked up twice, so there may be more
complaints about it in one query than in the other, but not none (`exists_mem_unknownTables`).
-/

namespace QueryLint

open Text

/-- The complaints say the same about places that may differ.  The text about an unexpected
parenthesis names its place, and only there the texts may differ. -/
structure Diagnostic.SameButPlace (d e : Diagnostic) : Prop where
  kind : d.kind = e.kind
  severity : d.severity = e.severity
  help : d.help = e.help
  message : d.kind ≠ .unbalancedParentheses → d.message = e.message
  offset : d.kind = .unbalancedParentheses → ∃ m n : Nat,
    d.message = (Query.Finding.unexpectedClose m).message ∧
      e.message = (Query.Finding.unexpectedClose n).message
  span : d.span.isSome = e.span.isSome

namespace Query

open Schema (Model)

variable {l : Leeway} {query query' : List Char}

/-! ## From findings to complaints -/

namespace Finding

theorem kind_unplaced (f : Finding) : f.unplaced.kind = f.kind := by cases f <;> rfl

theorem help?_unplaced (f : Finding) : f.unplaced.help? = f.help? := by cases f <;> rfl

theorem isSome_span?_unplaced (f : Finding) : f.unplaced.span?.isSome = f.span?.isSome := by
  cases f <;> rfl

theorem message_unplaced {f : Finding} (h : f.kind ≠ .unbalancedParentheses) :
    f.unplaced.message = f.message := by
  cases f with
  | unexpectedClose => exact absurd rfl h
  | _ => rfl

theorem exists_eq_unexpectedClose {f : Finding} (h : f.kind = .unbalancedParentheses) :
    ∃ offset, f = .unexpectedClose offset := by
  cases f with
  | unexpectedClose offset => exact ⟨offset, rfl⟩
  | _ => cases h

theorem Alike.kind_eq {f g : Finding} (h : f.Alike l g) : f.kind = g.kind := by
  rw [← kind_unplaced, h.unplaced, kind_unplaced]

/-- Findings that differ at most in their place become complaints that do. -/
theorem Alike.sameButPlace {f g : Finding} (h : f.Alike l g) (m n : Nat) :
    (f.diagnostic.shifted m).SameButPlace (g.diagnostic.shifted n) where
  kind := h.kind_eq
  severity := by
    show f.severity = g.severity
    rw [severity_eq, severity_eq, h.kind_eq]
  help := by
    show f.help? = g.help?
    rw [← help?_unplaced, h.unplaced, help?_unplaced]
  message hf := by
    have hg : g.kind ≠ .unbalancedParentheses := by rwa [← h.kind_eq]
    show f.message = g.message
    rw [← message_unplaced hf, h.unplaced, message_unplaced hg]
  offset hf := by
    have hg : g.kind = .unbalancedParentheses := by rwa [← h.kind_eq]
    obtain ⟨i, rfl⟩ := exists_eq_unexpectedClose hf
    obtain ⟨j, rfl⟩ := exists_eq_unexpectedClose hg
    exact ⟨i, j, rfl, rfl⟩
  span := by
    show (f.span?.map _).isSome = (g.span?.map _).isSome
    rw [Option.isSome_map, Option.isSome_map, ← isSome_span?_unplaced, h.unplaced,
      isSome_span?_unplaced]

end Finding

theorem filter_kinds_rel (keep : DiagnosticKind → Bool) {fs gs : List Finding}
    (h : List.Forall₂ (Finding.Alike l) fs gs) :
    List.Forall₂ (Finding.Alike l) (fs.filter fun f => keep f.kind)
      (gs.filter fun f => keep f.kind) := by
  refine List.rel_filter ?_ h
  intro f g hfg
  simp only [hfg.kind_eq]

/-- Without grouped expressions all findings are alike if those about references are. -/
theorem filter_findings_rel {schema : Option Model} (keep : DiagnosticKind → Bool)
    (hkeep : keep .groupByNotSelected = false) (h : Alike l query query')
    (hreferences : List.Forall₂ (Finding.Alike l)
      ((referenceFindings schema query).filter fun f => keep f.kind)
      ((referenceFindings schema query').filter fun f => keep f.kind)) :
    List.Forall₂ (Finding.Alike l)
      ((findings schema query).filter fun f => keep f.kind)
      ((findings schema query').filter fun f => keep f.kind) := by
  have hgrouped (fs : List Finding) : fs.filter (fun f => keep f.kind) =
      (fs.filter fun f => f.kind ≠ .groupByNotSelected).filter fun f => keep f.kind := by
    rw [List.filter_filter]
    refine List.filter_congr fun f _ => ?_
    by_cases hf : f.kind = .groupByNotSelected
    · simp [hf, hkeep]
    · simp [hf]
  simp only [findings_eq_append, List.filter_append]
  refine findings_append (filter_kinds_rel keep (balanceFindings_rel h)) ?_
  refine findings_append hreferences (findings_append ?_ (findings_append ?_ ?_))
  · rw [hgrouped, hgrouped (groupingFindings query')]
    exact filter_kinds_rel keep (filter_groupingFindings_rel h)
  · exact filter_kinds_rel keep (joinFindings_rel h)
  · exact filter_kinds_rel keep (safetyFindings_rel h)

/-! ## Spacing -/

/-- Where there is white space, other white space can stand.  The complaints then are the same in
number and order and say the same, but for places and for grouped expressions. -/
theorem check_spacing (schema : Option Model) {query query' : String}
    (h : Alike .spacing query.toList query'.toList) :
    List.Forall₂ Diagnostic.SameButPlace
      ((check schema query).filter fun d => d.kind ≠ .groupByNotSelected)
      ((check schema query').filter fun d => d.kind ≠ .groupByNotSelected) := by
  let keep : DiagnosticKind → Bool := fun k => k ≠ .groupByNotSelected
  have hfindings := filter_findings_rel keep rfl h.trim
    (filter_kinds_rel keep (referenceFindings_rel schema h.trim))
  rw [filter_check schema keep query, filter_check schema keep query']
  exact List.rel_map (fun f g hfg => hfg.sameButPlace _ _) hfindings

/-- A line break and a wide space instead of one blank. -/
theorem check_broken_line :
    Alike .spacing ("SELECT" ++ " " ++ "FROM t)").toList
        ("SELECT" ++ "\n\u3000" ++ "FROM t)").toList ∧
      List.Forall₂ Diagnostic.SameButPlace
        ((check (some Model.empty) ("SELECT" ++ " " ++ "FROM t)")).filter fun d =>
          d.kind ≠ .groupByNotSelected)
        ((check (some Model.empty) ("SELECT" ++ "\n\u3000" ++ "FROM t)")).filter fun d =>
          d.kind ≠ .groupByNotSelected) := by
  have hblank : IsBlankRun " ".toList := ⟨by decide, by decide⟩
  have hbreak : IsBlankRun "\n\u3000".toList := ⟨by decide, by decide⟩
  have halike : Alike .spacing ("SELECT" ++ " " ++ "FROM t)").toList
      ("SELECT" ++ "\n\u3000" ++ "FROM t)").toList := by
    simp only [String.toList_append, List.append_assoc]
    exact (Alike.refl _ _).append (.gap rfl hblank hbreak (.refl _ _))
  exact ⟨halike, check_spacing (some Model.empty) halike⟩

/-! ## Letter case -/

/-- The kinds of complaints that repeat a name from the query. -/
def namingKinds : List DiagnosticKind := [.tableNotFound, .columnNotFound, .groupByNotSelected]

theorem kind_mem_of_mem_referenceFindings {m : Model} {f : Finding}
    (h : f ∈ referenceFindings (some m) query) : f.kind ∈ namingKinds := by
  rcases List.mem_append.1 h with h | h
  · obtain ⟨w, -, rfl⟩ := List.mem_map.1 h
    exact (by decide : DiagnosticKind.tableNotFound ∈ namingKinds)
  · rw [unknownColumns_eq_getD] at h
    split at h
    · exact absurd h List.not_mem_nil
    · obtain ⟨p, -, rfl⟩ := List.mem_map.1 h
      exact (by decide : DiagnosticKind.columnNotFound ∈ namingKinds)

theorem eq_of_alike_letterCase {fs gs : List Finding}
    (h : List.Forall₂ (Finding.Alike .letterCase) fs gs) : fs = gs := by
  have heq : List.Forall₂ (fun f g => f = g) fs gs := h.imp fun f g hfg => hfg.same rfl
  rwa [List.forall₂_eq_eq_eq] at heq

/-- A table is reported as unknown if the query refers to it and the schema does not have it. -/
theorem exists_mem_unknownTables {m : Model} {name : String} :
    (∃ s, Finding.tableNotFound name s ∈ unknownTables m query) ↔
      (∃ w ∈ tableReferences (wordsOf query), w.name = name) ∧ m.hasTable name = false := by
  constructor
  · rintro ⟨s, hs⟩
    obtain ⟨w, hw, hfinding⟩ := List.mem_map.1 hs
    obtain ⟨hw, hunknown⟩ := List.mem_filter.1 hw
    obtain ⟨rfl, -⟩ := Finding.tableNotFound.inj hfinding
    exact ⟨⟨w, mem_of_mem_firstOccurrences hw, rfl⟩, by simpa using hunknown⟩
  · rintro ⟨⟨w, hw, rfl⟩, hunknown⟩
    obtain ⟨v, hv, htext⟩ := exists_mem_firstOccurrences hw List.not_mem_nil
    have hname : v.name = w.name := congrArg String.ofList htext
    refine ⟨v.span, List.mem_map.2 ⟨v, List.mem_filter.2 ⟨hv, ?_⟩, by rw [hname]⟩⟩
    rw [hname, hunknown]
    rfl

/-- There is a complaint that no table has this name. -/
def ReportsTable (ds : List Diagnostic) (name : String) : Prop :=
  ∃ d ∈ ds, d.kind = .tableNotFound ∧ d.message = "Table '" ++ name ++ "' not found in schema"

theorem mem_unknownTables_of_mem_findings {schema : Option Model} {name : String} {s : Span}
    (h : Finding.tableNotFound name s ∈ findings schema query) :
    ∃ m ∈ schema, Finding.tableNotFound name s ∈ unknownTables m query := by
  have hother {fs : List Finding} {P : RegularExpression String}
      (hP : codesOf fs ∈ P.matches') (hcode : "E0001" ∉ letters P) :
      Finding.tableNotFound name s ∉ fs :=
    fun hmem => hcode (mem_letters hP _ (List.mem_map_of_mem hmem))
  simp only [findings_eq_append, List.mem_append] at h
  rcases h with h | h | h | h | h
  · exact absurd h (hother (codesOf_balanceFindings query) (by decide))
  · cases schema with
    | none => exact absurd (List.mem_singleton.1 h) (by simp)
    | some m =>
      refine ⟨m, rfl, ?_⟩
      rcases List.mem_append.1 h with h | h
      · exact h
      · exact absurd h (hother (mem_repeated (codesOf_unknownColumns m query)) (by decide))
  · exact absurd h (hother (codesOf_groupingFindings query) (by decide))
  · exact absurd h (hother (codesOf_joinFindings query) (by decide))
  · exact absurd h (hother (codesOf_safetyFindings query) (by decide))

theorem reportsTable_check_iff {schema : Option Model} {sql name : String} :
    ReportsTable (check schema sql) name ↔
      ∃ m ∈ schema, ∃ s, Finding.tableNotFound name s ∈ unknownTables m (trim sql.toList) := by
  constructor
  · rintro ⟨d, hd, hkind, hmessage⟩
    obtain ⟨f, hf, rfl⟩ := List.mem_map.1 hd
    cases f with
    | tableNotFound found s =>
      obtain rfl : found = name := eq_of_tableNotFound_message_eq (s := s) (t := s) hmessage
      obtain ⟨m, hm, hmem⟩ := mem_unknownTables_of_mem_findings hf
      exact ⟨m, hm, s, hmem⟩
    | _ => cases hkind
  · rintro ⟨m, rfl, s, hs⟩
    have hmem : Finding.tableNotFound name s ∈ findings (some m) (trim sql.toList) := by
      simp only [findings_eq_append, List.mem_append]
      exact Or.inr (Or.inl (List.mem_append_left _ hs))
    exact ⟨_, List.mem_map_of_mem hmem, rfl, rfl⟩

theorem asciiFold_name {w v : Word} (h : w.Alike .letterCase v) :
    asciiFold w.name = asciiFold v.name := by
  have hlower {cs ds : List Char} (h : List.Forall₂ Leeway.letterCase.Chars cs ds) :
      cs.map Char.toLower = ds.map Char.toLower := by
    induction h with
    | nil => rfl
    | cons char _ ih => rw [List.map_cons, List.map_cons, char.toLower_eq, ih]
  simp only [asciiFold, Word.name, String.toList_ofList, hlower h.text]

/-- A table that is unknown in one spelling is unknown in the spelling of the other query. -/
theorem reportsTable_of_alike {schema : Option Model} {sql sql' name : String}
    (h : Alike .letterCase sql.toList sql'.toList) (hname : ReportsTable (check schema sql) name) :
    ∃ name', sameIgnoringCase name name' = true ∧ ReportsTable (check schema sql') name' := by
  obtain ⟨m, hm, hfound⟩ := reportsTable_check_iff.1 hname
  obtain ⟨⟨w, hw, rfl⟩, hunknown⟩ := exists_mem_unknownTables.1 hfound
  obtain ⟨v, hv, hwv⟩ := exists_mem_of_forall₂ (tableReferences_rel h.trim.wordsOf) hw
  have hfold := asciiFold_name hwv
  refine ⟨v.name, sameIgnoringCase_iff.2 hfold, reportsTable_check_iff.2 ⟨m, hm, ?_⟩⟩
  refine exists_mem_unknownTables.2 ⟨⟨v, hv, rfl⟩, ?_⟩
  rw [← m.hasTable_congr hfold, hunknown]

/-- Queries that differ in the case of ASCII letters get the same complaints but for those that
repeat a name, and the same tables are unknown in both. -/
theorem check_letterCase (schema : Option Model) {query query' : String}
    (h : asciiFold query = asciiFold query') :
    (check schema query).filter (fun d => d.kind ∉ namingKinds) =
        (check schema query').filter (fun d => d.kind ∉ namingKinds) ∧
      ∀ name,
        (ReportsTable (check schema query) name →
          ∃ name', sameIgnoringCase name name' = true ∧
            ReportsTable (check schema query') name') ∧
        (ReportsTable (check schema query') name →
          ∃ name', sameIgnoringCase name name' = true ∧
            ReportsTable (check schema query) name') := by
  have halike : Alike .letterCase query.toList query'.toList := .of_map_toLower_eq h
  refine ⟨?_, fun name => ⟨reportsTable_of_alike halike, reportsTable_of_alike halike.symm⟩⟩
  let keep : DiagnosticKind → Bool := fun k => k ∉ namingKinds
  have hreferences : List.Forall₂ (Finding.Alike .letterCase)
      ((referenceFindings schema (trim query.toList)).filter fun f => keep f.kind)
      ((referenceFindings schema (trim query'.toList)).filter fun f => keep f.kind) := by
    cases schema with
    | none => exact findings_refl _ _
    | some m =>
      have hnone (cs : List Char) :
          (referenceFindings (some m) cs).filter (fun f => keep f.kind) = [] := by
        rw [List.filter_eq_nil_iff]
        intro f hf
        simpa [keep] using kind_mem_of_mem_referenceFindings hf
      rw [hnone, hnone]
      exact .nil
  have hfindings := filter_findings_rel keep rfl halike.trim hreferences
  rw [filter_check schema keep query, filter_check schema keep query',
    eq_of_alike_letterCase hfindings, halike.blankPrefix.byteSize rfl]

/-- A table in two spellings, of which the other query has neither. -/
theorem check_shouted :
    asciiFold "Select a From Ghost Join ghost" = asciiFold "SELECT A FROM GHOST JOIN GHOST" ∧
      (check (some .empty) "Select a From Ghost Join ghost").filter
          (fun d => d.kind ∉ namingKinds) =
        (check (some .empty) "SELECT A FROM GHOST JOIN GHOST").filter
          (fun d => d.kind ∉ namingKinds) ∧
      ∃ name, sameIgnoringCase "ghost" name = true ∧
        ReportsTable (check (some .empty) "SELECT A FROM GHOST JOIN GHOST") name := by
  have hfold : asciiFold "Select a From Ghost Join ghost" =
      asciiFold "SELECT A FROM GHOST JOIN GHOST" := by decide
  have hmem : (Finding.tableNotFound "ghost" ⟨25, 5⟩).diagnostic.shifted 0 ∈
      check (some .empty) "Select a From Ghost Join ghost" := by decide +kernel
  have hcheck := check_letterCase (some .empty) hfold
  exact ⟨hfold, hcheck.1, (hcheck.2 "ghost").1 ⟨_, hmem, rfl, rfl⟩⟩

end Query

end QueryLint
