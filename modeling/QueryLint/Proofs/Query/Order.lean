import Mathlib.Computability.RegularExpressions
import QueryLint.Query.Check

/-!
# The order of complaints

What is said about a query comes in a fixed order, and most of it at most once.  The order is a
regular expression over the codes of the complaints: one for each pass (`balanceShape`,
`referenceShape`, `groupingShape`, `joinShape`, `safetyShape`), and the list of all complaints
is in their product (`check_codes`).

Only the shape of the second pass depends on whether there is a schema, and only what that pass
reports depends on which schema it is.  So the complaints in front of it and behind it are the
same lists for all schemas, and `check_codes` gives them before it asks for the schema.

Which codes a pass can give rise to at all is read off the letters of its expression
(`mem_letters`).  This is how one sees that a table is reported as unknown in the second pass
only, where no name comes twice (`nodup_messages_unknownTables`).
-/

namespace QueryLint.Query

open RegularExpression (char)
open Schema (Model)
open Text

/-! ## Expressions over codes -/

/-- A code that may be missing. -/
def optional (code : String) : RegularExpression String := 1 + char code

/-- A code any number of times. -/
def repeated (code : String) : RegularExpression String := (char code).star

theorem mem_optional {code : String} {cs : List String} :
    cs ∈ (optional code).matches' ↔ cs = [] ∨ cs = [code] := by
  rw [optional, RegularExpression.matches'_add, RegularExpression.matches'_epsilon,
    RegularExpression.matches'_char, Language.mem_add, Language.mem_one]
  exact Iff.rfl

theorem mem_repeated {code : String} {cs : List String} (h : ∀ c ∈ cs, c = code) :
    cs ∈ (repeated code).matches' := by
  rw [repeated, RegularExpression.matches'_star, RegularExpression.matches'_char,
    Language.mem_kstar]
  have hflatten : cs = (cs.map fun c => [c]).flatten := by
    rw [← List.flatMap_def, List.flatMap_singleton']
  refine ⟨cs.map fun c => [c], hflatten, ?_⟩
  intro word hword
  obtain ⟨c, hc, rfl⟩ := List.mem_map.1 hword
  rw [h c hc]
  exact rfl

theorem append_mem_mul {P Q : RegularExpression String} {cs ds : List String}
    (hcs : cs ∈ P.matches') (hds : ds ∈ Q.matches') : cs ++ ds ∈ (P * Q).matches' := by
  rw [RegularExpression.matches'_mul]
  exact Language.append_mem_mul hcs hds

/-- The letters of an expression. -/
def letters : RegularExpression String → List String
  | .char a => [a]
  | .plus P Q | .comp P Q => letters P ++ letters Q
  | .star P => letters P
  | _ => []

/-- A word that matches an expression has only letters of the expression. -/
theorem mem_letters {P : RegularExpression String} {cs : List String} (h : cs ∈ P.matches') :
    ∀ c ∈ cs, c ∈ letters P := by
  induction P generalizing cs with
  | zero => exact absurd h (Set.notMem_empty cs)
  | epsilon =>
    obtain rfl : cs = [] := h
    exact List.forall_mem_nil _
  | char a =>
    obtain rfl : cs = [a] := h
    exact fun c hc => hc
  | plus P Q hP hQ =>
    intro c hc
    rcases h with h | h
    · exact List.mem_append_left _ (hP h c hc)
    · exact List.mem_append_right _ (hQ h c hc)
  | comp P Q hP hQ =>
    intro c hc
    obtain ⟨xs, hxs, ys, hys, rfl⟩ := Language.mem_mul.1 h
    rcases List.mem_append.1 hc with hc | hc
    · exact List.mem_append_left _ (hP hxs c hc)
    · exact List.mem_append_right _ (hQ hys c hc)
  | star P hP =>
    intro c hc
    obtain ⟨words, rfl, hwords⟩ := Language.mem_kstar.1 h
    obtain ⟨word, hword, hc⟩ := List.mem_flatten.1 hc
    exact hP (hwords word hword) c hc

/-! ## Findings of each pass -/

/-- The codes of findings. -/
def codesOf (fs : List Finding) : List String := fs.map fun f => f.kind.code

@[simp] theorem codesOf_append (fs gs : List Finding) :
    codesOf (fs ++ gs) = codesOf fs ++ codesOf gs := List.map_append

/-- Nothing is of some kinds where their codes are not. -/
theorem filter_kinds_eq_nil (kinds : List DiagnosticKind) {P : RegularExpression String}
    {fs : List Finding} (h : codesOf fs ∈ P.matches') (hP : ∀ k ∈ kinds, k.code ∉ letters P) :
    fs.filter (fun f => f.kind ∈ kinds) = [] := by
  rw [List.filter_eq_nil_iff]
  intro f hf hkind
  exact hP f.kind (of_decide_eq_true hkind) (mem_letters h _ (List.mem_map_of_mem hf))

theorem codesOf_ite {p : Prop} [Decidable p] {f : Finding} {code : String}
    (h : f.kind.code = code) : codesOf (if p then [f] else []) ∈ (optional code).matches' := by
  rw [mem_optional]
  by_cases hp : p
  · rw [if_pos hp]
    exact Or.inr (congrArg (fun c => [c]) h)
  · rw [if_neg hp]
    exact Or.inl rfl

theorem codesOf_toList {o : Option Finding} {code : String}
    (h : ∀ f ∈ o, f.kind.code = code) : codesOf o.toList ∈ (optional code).matches' := by
  rw [mem_optional]
  cases o with
  | none => exact Or.inl rfl
  | some f => exact Or.inr (congrArg (fun c => [c]) (h f rfl))

theorem codesOf_map_toList {o : Option Span} {finding : Span → Finding} {code : String}
    (h : ∀ s, (finding s).kind.code = code) :
    codesOf (o.map finding).toList ∈ (optional code).matches' := by
  refine codesOf_toList fun f hf => ?_
  obtain ⟨s, -, rfl⟩ := Option.map_eq_some_iff.1 hf
  exact h s

/-- Quotes, then parentheses, then lists that are left out. -/
def balanceShape : RegularExpression String :=
  optional "E0003" * optional "E0004" * (1 + (char "E0005" + char "E0006")) *
    optional "E0007" * optional "E0008"

/-- Without a schema that there is none; with a schema tables, then columns. -/
def referenceShape : Option Model → RegularExpression String
  | none => char "W0001"
  | some _ => repeated "E0001" * repeated "E0002"

/-- Either an aggregate or grouped expressions. -/
def groupingShape : RegularExpression String := optional "W0002" + repeated "W0003"

/-- A cross join, then conditions. -/
def joinShape : RegularExpression String := optional "W0004" * optional "W0005"

/-- Changes and reads of every row, then marks of injection. -/
def safetyShape : RegularExpression String :=
  optional "E0009" * optional "W0006" * optional "E0010" * optional "E0011" * optional "E0012"

/-- The scan of parentheses stops at its first finding. -/
theorem codesOf_scanParentheses (depth pos : Nat) (cs : List Char) :
    codesOf (scanParentheses depth pos cs) ∈
      (1 + (char "E0005" + char "E0006") : RegularExpression String).matches' := by
  induction cs generalizing depth pos with
  | nil =>
    rw [scanParentheses]
    by_cases hdepth : depth = 0
    · rw [if_pos hdepth]
      exact Or.inl rfl
    · rw [if_neg hdepth]
      exact Or.inr (Or.inr rfl)
  | cons c cs ih =>
    unfold scanParentheses
    by_cases hopen : c = '('
    · rw [if_pos hopen]
      exact ih _ _
    · rw [if_neg hopen]
      by_cases hclose : c = ')'
      · rw [if_pos hclose]
        cases depth with
        | zero => exact Or.inr (Or.inl rfl)
        | succ depth => exact ih _ _
      · rw [if_neg hclose]
        exact ih _ _

theorem codesOf_balanceFindings (query : List Char) :
    codesOf (balanceFindings query) ∈ balanceShape.matches' := by
  simp only [balanceFindings, codesOf_append]
  refine append_mem_mul (append_mem_mul (append_mem_mul (append_mem_mul ?_ ?_) ?_) ?_) ?_
  · exact codesOf_ite rfl
  · exact codesOf_ite rfl
  · exact codesOf_scanParentheses 0 0 query
  · exact codesOf_map_toList fun _ => rfl
  · exact codesOf_map_toList fun _ => rfl

theorem codesOf_unknownTables (m : Model) (query : List Char) :
    ∀ code ∈ codesOf (unknownTables m query), code = "E0001" := by
  intro code hcode
  obtain ⟨f, hf, rfl⟩ := List.mem_map.1 hcode
  obtain ⟨w, -, rfl⟩ := List.mem_map.1 hf
  rfl

theorem codesOf_unknownColumns (m : Model) (query : List Char) :
    ∀ code ∈ codesOf (unknownColumns m query), code = "E0002" := by
  intro code hcode
  obtain ⟨f, hf, rfl⟩ := List.mem_map.1 hcode
  rw [unknownColumns] at hf
  split at hf
  · exact absurd hf List.not_mem_nil
  · split at hf
    · exact absurd hf List.not_mem_nil
    · obtain ⟨p, -, rfl⟩ := List.mem_map.1 hf
      rfl

theorem codesOf_referenceFindings (schema : Option Model) (query : List Char) :
    codesOf (referenceFindings schema query) ∈ (referenceShape schema).matches' := by
  cases schema with
  | none => exact rfl
  | some m =>
    rw [referenceFindings, codesOf_append]
    exact append_mem_mul (mem_repeated (codesOf_unknownTables m query))
      (mem_repeated (codesOf_unknownColumns m query))

theorem codesOf_groupingFindings (query : List Char) :
    codesOf (groupingFindings query) ∈ groupingShape.matches' := by
  have hnil : codesOf [] ∈ (optional "W0002").matches' := mem_optional.2 (Or.inl rfl)
  simp only [groupingFindings]
  split
  · refine Or.inl ?_
    split
    next span list _ _ =>
      split
      · exact hnil
      · exact mem_optional.2 (Or.inr rfl)
    next => exact hnil
  · split
    next list grouped _ _ =>
      refine Or.inr (mem_repeated fun code hcode => ?_)
      obtain ⟨f, hf, rfl⟩ := List.mem_map.1 hcode
      obtain ⟨e, -, rfl⟩ := List.mem_map.1 hf
      rfl
    next => exact Or.inl hnil

theorem codesOf_joinFindings (query : List Char) :
    codesOf (joinFindings query) ∈ joinShape.matches' := by
  simp only [joinFindings, codesOf_append]
  refine append_mem_mul ?_ ?_
  · exact codesOf_map_toList fun _ => rfl
  · exact codesOf_ite rfl

theorem codesOf_safetyFindings (query : List Char) :
    codesOf (safetyFindings query) ∈ safetyShape.matches' := by
  have hmutation : ∀ f ∈ mutationFinding? (wordsOf query), f.kind.code = "E0009" := by
    intro f hf
    rw [mutationFinding?] at hf
    split at hf
    · obtain ⟨-, hf⟩ := Option.ite_none_left_eq_some.1 hf
      rw [← Option.some.inj hf]
      rfl
    · exact absurd hf (by simp)
  simp only [safetyFindings, codesOf_append]
  refine append_mem_mul (append_mem_mul (append_mem_mul (append_mem_mul ?_ ?_) ?_) ?_) ?_
  · exact codesOf_toList hmutation
  · exact codesOf_ite rfl
  · exact codesOf_map_toList fun _ => rfl
  · exact codesOf_map_toList fun _ => rfl
  · exact codesOf_map_toList fun _ => rfl

/-! ## No table twice -/

theorem text_notMem_of_mem_firstOccurrences {seen : List (List Char)} {ws : List Word} {w : Word}
    (h : w ∈ firstOccurrences seen ws) : w.text ∉ seen := by
  fun_induction firstOccurrences seen ws with
  | case1 => exact absurd h List.not_mem_nil
  | case2 seen v ws _ ih => exact ih h
  | case3 seen v ws hnew ih =>
    rcases List.mem_cons.1 h with rfl | h
    · exact hnew
    · exact fun hw => ih h (List.mem_cons_of_mem v.text hw)

theorem nodup_texts_firstOccurrences (seen : List (List Char)) (ws : List Word) :
    ((firstOccurrences seen ws).map Word.text).Nodup := by
  fun_induction firstOccurrences seen ws with
  | case1 => exact List.nodup_nil
  | case2 seen v ws _ ih => exact ih
  | case3 seen v ws _ ih =>
    rw [List.map_cons, List.nodup_cons]
    refine ⟨?_, ih⟩
    intro hv
    obtain ⟨w, hw, htext⟩ := List.mem_map.1 hv
    have hnew := text_notMem_of_mem_firstOccurrences hw
    rw [htext] at hnew
    exact hnew List.mem_cons_self

theorem eq_of_surrounded_eq {front back a b : String}
    (h : front ++ a ++ back = front ++ b ++ back) : a = b := by
  have hchars := congrArg String.toList h
  simp only [String.toList_append] at hchars
  exact String.toList_injective (List.append_cancel_left (List.append_cancel_right hchars))

/-- The text of the complaint about a table tells which table it is. -/
theorem eq_of_tableNotFound_message_eq {a b : String} {s t : Span}
    (h : (Finding.tableNotFound a s).message = (Finding.tableNotFound b t).message) : a = b :=
  eq_of_surrounded_eq h

/-- No table is reported as unknown twice. -/
theorem nodup_messages_unknownTables (m : Model) (query : List Char) :
    ((unknownTables m query).map Finding.message).Nodup := by
  have htexts := nodup_texts_firstOccurrences [] (tableReferences (wordsOf query))
  rw [unknownTables, List.map_map]
  refine List.Nodup.map_on ?_ ((List.Nodup.of_map _ htexts).filter _)
  intro v hv w hw hmessage
  have hname : v.name = w.name := eq_of_tableNotFound_message_eq hmessage
  exact List.inj_on_of_nodup_map htexts (List.mem_filter.1 hv).1 (List.mem_filter.1 hw).1
    (String.ofList_inj.1 hname)

/-! ## All complaints -/

/-- The codes of complaints. -/
def codes (ds : List Diagnostic) : List String := ds.map Diagnostic.code

/-- What the passes in front of the references can report, the references, and what the passes
behind them can report. -/
def checkShape (schema : Option Model) : RegularExpression String :=
  balanceShape * referenceShape schema * (groupingShape * joinShape * safetyShape)

/-- The complaints that findings become in a query with `base` bytes of white space in front. -/
def complaints (base : Nat) (fs : List Finding) : List Diagnostic :=
  fs.map fun f => f.diagnostic.shifted base

@[simp] theorem complaints_append (base : Nat) (fs gs : List Finding) :
    complaints base (fs ++ gs) = complaints base fs ++ complaints base gs := List.map_append

@[simp] theorem codes_complaints (base : Nat) (fs : List Finding) :
    codes (complaints base fs) = codesOf fs := by
  rw [codes, complaints, List.map_map]
  rfl

theorem messages_complaints (base : Nat) (fs : List Finding) :
    (complaints base fs).map Diagnostic.message = fs.map Finding.message := by
  rw [complaints, List.map_map]
  rfl

theorem check_eq_complaints (schema : Option Model) (query : String) :
    check schema query =
      complaints (byteSize (blankPrefix query.toList)) (findings schema (trim query.toList)) := rfl

theorem filter_check (schema : Option Model) (keep : DiagnosticKind → Bool) (sql : String) :
    (check schema sql).filter (fun d => keep d.kind) =
      complaints (byteSize (blankPrefix sql.toList))
        ((findings schema (trim sql.toList)).filter fun f => keep f.kind) := List.filter_map

/-- A code that an expression does not have is the code of no complaint. -/
theorem filter_eq_nil_of_notMem_letters {P : RegularExpression String} {ds : List Diagnostic}
    (h : codes ds ∈ P.matches') {code : String} (hcode : code ∉ letters P) :
    ds.filter (fun d => d.code = code) = [] := by
  rw [List.filter_eq_nil_iff]
  intro d hd hdcode
  have hmem := mem_letters h d.code (List.mem_map_of_mem hd)
  rw [of_decide_eq_true hdcode] at hmem
  exact hcode hmem

theorem codes_append (ds es : List Diagnostic) : codes (ds ++ es) = codes ds ++ codes es :=
  List.map_append

/-- Among what is said about references no table is reported as unknown twice. -/
theorem nodup_messages_references (schema : Option Model) (query : List Char) (base : Nat) :
    (((complaints base (referenceFindings schema query)).filter fun d =>
      d.code = "E0001").map Diagnostic.message).Nodup := by
  cases schema with
  | none =>
    have hnone : codes (complaints base (referenceFindings none query)) ∈
        (char "W0001" : RegularExpression String).matches' := rfl
    rw [filter_eq_nil_of_notMem_letters hnone (by decide)]
    exact List.nodup_nil
  | some m =>
    have hcolumns : codes (complaints base (unknownColumns m query)) ∈
        (repeated "E0002").matches' := by
      rw [codes_complaints]
      exact mem_repeated (codesOf_unknownColumns m query)
    rw [referenceFindings, complaints_append, List.filter_append,
      filter_eq_nil_of_notMem_letters hcolumns (by decide), List.append_nil]
    have htables := nodup_messages_unknownTables m query
    rw [← messages_complaints base] at htables
    exact htables.sublist (List.filter_sublist.map Diagnostic.message)

/-- The complaints about a query come in a fixed order, which is the same for all schemas but for
the references.  How bad each of them is agrees with its code, and no table is reported as unknown
twice. -/
theorem check_codes (query : String) :
    ∃ front back : List Diagnostic,
      codes front ∈ balanceShape.matches' ∧
      codes back ∈ (groupingShape * joinShape * safetyShape).matches' ∧
      ∀ schema : Option Model,
        (∃ references, check schema query = front ++ references ++ back ∧
          codes references ∈ (referenceShape schema).matches') ∧
        codes (check schema query) ∈ (checkShape schema).matches' ∧
        (∀ d ∈ check schema query, d.severity = d.kind.severity) ∧
        (((check schema query).filter fun d => d.code = "E0001").map Diagnostic.message).Nodup := by
  let cs := trim query.toList
  let base := byteSize (blankPrefix query.toList)
  have hfront := codesOf_balanceFindings cs
  have hback := append_mem_mul
    (append_mem_mul (codesOf_groupingFindings cs) (codesOf_joinFindings cs))
    (codesOf_safetyFindings cs)
  rw [← codesOf_append, ← codesOf_append] at hback
  refine ⟨complaints base (balanceFindings cs),
    complaints base (groupingFindings cs ++ joinFindings cs ++ safetyFindings cs), ?_, ?_, ?_⟩
  · rwa [codes_complaints]
  · rwa [codes_complaints]
  intro schema
  have hreferences := codesOf_referenceFindings schema cs
  have hcheck : check schema query =
      complaints base (balanceFindings cs) ++ complaints base (referenceFindings schema cs) ++
        complaints base (groupingFindings cs ++ joinFindings cs ++ safetyFindings cs) := by
    rw [check_eq_complaints, findings_eq_append, ← complaints_append, ← complaints_append]
    simp only [List.append_assoc, cs, base]
  refine ⟨⟨_, hcheck, by rwa [codes_complaints]⟩, ?_, ?_, ?_⟩
  · rw [hcheck, codes_append, codes_append, codes_complaints, codes_complaints, codes_complaints]
    exact append_mem_mul (append_mem_mul hfront hreferences) hback
  · intro d hd
    rw [check_eq_complaints] at hd
    obtain ⟨f, -, rfl⟩ := List.mem_map.1 hd
    exact f.severity_eq
  · rw [← codes_complaints base] at hfront hback
    rw [hcheck, List.filter_append, List.filter_append,
      filter_eq_nil_of_notMem_letters hfront (by decide),
      filter_eq_nil_of_notMem_letters hback (by decide), List.nil_append, List.append_nil]
    exact nodup_messages_references schema cs base

end QueryLint.Query
