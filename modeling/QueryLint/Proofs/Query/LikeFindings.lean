import QueryLint.Proofs.Query.LikeMarks

/-!
# Findings in queries that look alike

Each pass finds the same in queries that look alike, at the same place if places count
(`balanceFindings_rel`, `joinFindings_rel`, `safetyFindings_rel`).  Two passes repeat names from the
query and need more care.

* A grouped expression is looked for as a text in the list behind SELECT, so it may be found in one
  query and not in the other.  Without these findings the pass agrees
  (`filter_groupingFindings_rel`).
* The references agree if only white space differs (`referenceFindings_rel`).  If letter case
  differs, the same table may be named once in one query and in two spellings in the other.
-/

namespace QueryLint.Query

open Text
open Schema (Model)

variable {l : Leeway} {query query' : List Char}

/-! ## Parts of a pass -/

theorem findings_map_toList {o p : Option Span} (h : Option.Rel l.SamePlace o p)
    {finding : Span → Finding} (hplace : ∀ s t, (finding s).unplaced = (finding t).unplaced) :
    List.Forall₂ (Finding.Alike l) (o.map finding).toList (p.map finding).toList := by
  cases h with
  | none => exact .nil
  | some hs => exact .cons ⟨hplace _ _, fun hl => congrArg finding (hs hl)⟩ .nil

theorem findings_append {fs gs fs' gs' : List Finding}
    (hf : List.Forall₂ (Finding.Alike l) fs fs') (hg : List.Forall₂ (Finding.Alike l) gs gs') :
    List.Forall₂ (Finding.Alike l) (fs ++ gs) (fs' ++ gs') := List.rel_append hf hg

theorem oddlyMany_eq {x : Char} (hx : x ∈ signs) (h : Alike l query query') :
    oddlyMany x query = oddlyMany x query' := by
  rw [oddlyMany, oddlyMany, h.count_eq hx]

theorem adjacentSpan?_rel (first second : String) {ws vs : List Word}
    (h : List.Forall₂ (Word.Alike l) ws vs) :
    Option.Rel l.SamePlace (adjacentSpan? first second ws) (adjacentSpan? first second vs) := by
  refine map_rel (adjacentPair?_rel first second h) fun p q hpq hl => ?_
  rw [hpq.1.span hl, hpq.2.1.span hl]

theorem map_toUpper_eq {cs ds : List Char} (h : List.Forall₂ l.Chars cs ds) :
    cs.map Char.toUpper = ds.map Char.toUpper := by
  induction h with
  | nil => rfl
  | cons char _ ih => rw [List.map_cons, List.map_cons, char.toUpper_eq, ih]

theorem mutationFinding?_rel {ws vs : List Word} (h : List.Forall₂ (Word.Alike l) ws vs) :
    List.Forall₂ (Finding.Alike l) (mutationFinding? ws).toList (mutationFinding? vs).toList := by
  have hfirst := firstOf?_rel ["delete", "update"] h
  rw [mutationFinding?, mutationFinding?, any_is_eq "where" h]
  generalize firstOf? ["delete", "update"] ws = o, firstOf? ["delete", "update"] vs = p
    at hfirst ⊢
  cases hfirst with
  | none => exact .nil
  | some hw =>
    simp only [map_toUpper_eq hw.text]
    split
    · exact .nil
    · refine .cons ⟨rfl, ?_⟩ .nil
      intro hl
      rw [hw.span hl]

/-! ## The passes -/

theorem balanceFindings_rel (h : Alike l query query') :
    List.Forall₂ (Finding.Alike l) (balanceFindings query) (balanceFindings query') := by
  simp only [balanceFindings, oddlyMany_eq (x := '\'') (by decide) h,
    oddlyMany_eq (x := '"') (by decide) h]
  refine findings_append (findings_append (findings_append (findings_refl l _) ?_) ?_) ?_
  · exact scanParentheses_rel h 0 fun _ => rfl
  · exact findings_map_toList (adjacentSpan?_rel "from" "where" h.wordsOf) fun _ _ => rfl
  · exact findings_map_toList (adjacentSpan?_rel "select" "from" h.wordsOf) fun _ _ => rfl

theorem joinFindings_rel (h : Alike l query query') :
    List.Forall₂ (Finding.Alike l) (joinFindings query) (joinFindings query') := by
  have hbodies := any_eq_of_forall₂ (conditionBodies_rel h.wordsOf) fun _ _ => isUnqualified_eq
  simp only [joinFindings, any_is_eq "join" h.wordsOf, hbodies]
  refine findings_append ?_ (findings_refl l _)
  exact findings_map_toList (crossJoinSpan?_rel h.wordsOf) fun _ _ => rfl

theorem safetyFindings_rel (h : Alike l query query') :
    List.Forall₂ (Finding.Alike l) (safetyFindings query) (safetyFindings query') := by
  have hstart : l.SamePlace 0 0 := fun _ => rfl
  simp only [safetyFindings, any_is_eq "select" h.wordsOf, any_is_eq "limit" h.wordsOf]
  refine findings_append (findings_append (findings_append (findings_append ?_ ?_) ?_) ?_) ?_
  · exact mutationFinding?_rel h.wordsOf
  · exact findings_refl l _
  · exact findings_map_toList (dropSpan?_rel h hstart) fun _ _ => rfl
  · exact findings_map_toList (commentSpan?_rel h hstart) fun _ _ => rfl
  · exact findings_map_toList (tautologySpan?_rel h hstart) fun _ _ => rfl

/-! ### Grouping -/

theorem filter_notSelected (list grouped : List Char) :
    (notSelected list grouped).filter (fun f => f.kind ≠ .groupByNotSelected) = [] := by
  rw [List.filter_eq_nil_iff]
  intro f hf
  obtain ⟨e, -, rfl⟩ := List.mem_map.1 hf
  exact not_eq_of_beq_eq_false rfl

/-- What the pass over aggregates finds besides grouped expressions. -/
theorem filter_groupingFindings (query : List Char) :
    (groupingFindings query).filter (fun f => f.kind ≠ .groupByNotSelected) =
      match adjacentPair? "group" "by" (wordsOf query), aggregateSpan? (wordsOf query) with
      | none, some span =>
        if (qualifiedPairs (wordsOf ((selectList? query).getD []))).isEmpty then []
        else [.missingGroupBy span]
      | _, _ => [] := by
  rw [groupingFindings]
  cases adjacentPair? "group" "by" (wordsOf query) with
  | some pair =>
    cases selectList? query with
    | none => rfl
    | some list =>
      cases groupByList? (wordsOf query) with
      | none => rfl
      | some grouped => exact filter_notSelected list grouped
  | none =>
    cases aggregateSpan? (wordsOf query) with
    | none => rfl
    | some span =>
      cases selectList? query with
      | none => rfl
      | some list =>
        simp only [Option.getD_some]
        split <;> rfl

theorem filter_groupingFindings_rel (h : Alike l query query') :
    List.Forall₂ (Finding.Alike l)
      ((groupingFindings query).filter fun f => f.kind ≠ .groupByNotSelected)
      ((groupingFindings query').filter fun f => f.kind ≠ .groupByNotSelected) := by
  have hpair := adjacentPair?_rel "group" "by" h.wordsOf
  have haggregate := aggregateSpan?_rel h.wordsOf
  have hqualified := isEmpty_eq_of_forall₂ (qualifiedPairs_rel (selectList?_alike h).wordsOf)
  rw [filter_groupingFindings, filter_groupingFindings, hqualified]
  generalize adjacentPair? "group" "by" (wordsOf query) = o,
    adjacentPair? "group" "by" (wordsOf query') = p at hpair ⊢
  generalize aggregateSpan? (wordsOf query) = s, aggregateSpan? (wordsOf query') = t
    at haggregate ⊢
  cases hpair with
  | some => exact .nil
  | none =>
    cases haggregate with
    | none => exact .nil
    | some hspan =>
      simp only
      split
      · exact .nil
      · exact .cons ⟨rfl, fun hl => congrArg Finding.missingGroupBy (hspan hl)⟩ .nil

/-! ### References -/

theorem eq_of_forall₂_spacing {cs ds : List Char}
    (h : List.Forall₂ Leeway.spacing.Chars cs ds) : cs = ds := by
  have heq : List.Forall₂ (fun c d : Char => c = d) cs ds := h
  rwa [List.forall₂_eq_eq_eq] at heq

theorem Word.Alike.name_eq {w v : Word} (h : Word.Alike .spacing w v) : w.name = v.name := by
  rw [Word.name, Word.name, eq_of_forall₂_spacing h.text]

theorem firstOccurrences_rel {ws vs : List Word} (h : List.Forall₂ (Word.Alike .spacing) ws vs)
    (seen : List (List Char)) :
    List.Forall₂ (Word.Alike .spacing) (firstOccurrences seen ws) (firstOccurrences seen vs) := by
  induction h generalizing seen with
  | nil => exact .nil
  | cons hw _ ih =>
    rw [firstOccurrences, firstOccurrences, eq_of_forall₂_spacing hw.text]
    split
    · exact ih seen
    · exact .cons hw (ih _)

theorem unknownTables_rel (m : Model) (h : Alike .spacing query query') :
    List.Forall₂ (Finding.Alike .spacing) (unknownTables m query) (unknownTables m query') := by
  have hwords := firstOccurrences_rel (tableReferences_rel h.wordsOf) []
  have hunknown : List.Forall₂ (Word.Alike .spacing)
      ((firstOccurrences [] (tableReferences (wordsOf query))).filter fun w => !m.hasTable w.name)
      ((firstOccurrences [] (tableReferences (wordsOf query'))).filter fun w =>
        !m.hasTable w.name) := by
    refine List.rel_filter ?_ hwords
    intro w v hw
    simp only [Word.Alike.name_eq hw]
  refine List.rel_map ?_ hunknown
  intro w v hw
  simp only [Word.Alike.name_eq hw]
  exact ⟨rfl, Leeway.samePlace_of_spacing rfl _ _⟩

/-- No list behind SELECT has as few columns as an empty one. -/
theorem unknownColumns_eq_getD (m : Model) (query : List Char) :
    unknownColumns m query =
      if trim ((selectList? query).getD []) = ['*'] then []
      else
        ((qualifiedPairs (wordsOf ((selectList? query).getD []))).filter fun p =>
          lacksColumn m p.1.name p.2.name).map fun p => .columnNotFound p.1.name p.2.name := by
  rw [unknownColumns]
  cases selectList? query with
  | none => rfl
  | some list => rfl

theorem unknownColumns_rel (m : Model) (h : Alike .spacing query query') :
    List.Forall₂ (Finding.Alike .spacing) (unknownColumns m query) (unknownColumns m query') := by
  have hlist := selectList?_alike h
  rw [unknownColumns_eq_getD, unknownColumns_eq_getD]
  simp only [hlist.trim.eq_signs_iff (t := ['*']) (by decide)]
  split
  · exact .nil
  · refine List.rel_map ?_ (List.rel_filter ?_ (qualifiedPairs_rel hlist.wordsOf))
    · intro p q hpq
      simp only [Word.Alike.name_eq hpq.1, Word.Alike.name_eq hpq.2]
      exact .refl _ _
    · intro p q hpq
      simp only [Word.Alike.name_eq hpq.1, Word.Alike.name_eq hpq.2]

theorem referenceFindings_rel (schema : Option Model) (h : Alike .spacing query query') :
    List.Forall₂ (Finding.Alike .spacing)
      (referenceFindings schema query) (referenceFindings schema query') := by
  cases schema with
  | none => exact findings_refl _ _
  | some m => exact findings_append (unknownTables_rel m h) (unknownColumns_rel m h)

end QueryLint.Query
