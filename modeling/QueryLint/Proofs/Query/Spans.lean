import QueryLint.Proofs.Query.Marks
import QueryLint.Proofs.Query.Parentheses

/-!
# What the spans of complaints mark

A complaint with a span is about the part of the query that the span marks, and `Diagnostic.Shows`
says for every kind what that part is: the name that the message quotes, the keywords that should
not be neighbours, the mark of injection.  Kinds that it does not mention never come with a span.

Each pass finds its spans in another way, but all of them in the trimmed query, and there is only
one place where they are moved back.  So there are two steps.

* `located_of_mem_findings`: in the trimmed query every span marks what its finding is about.
  Scans over words are settled by `marks_of_suffix` and `marks_upTo_of_suffix`, since the words
  that are left say where the scan is.  Scans for marks stop at the first mark
  (`exists_marks_of_scansFor`).
* `check_span_shows`: in the query as given every span still marks the same part, and as a slice
  of the string this part is cut between characters and inside the white space around the query.
-/

namespace QueryLint

open Text

namespace Query

/-- Two keywords with white space, and nothing else, between them. -/
def IsPair (first second : String) (part : List Char) : Prop :=
  ∃ v gap w, part = v ++ gap ++ w ∧ spells first v = true ∧ gap ≠ [] ∧ IsBlankText gap ∧
    spells second w = true

end Query

open Query

/-- The complaint is about `part` of the trimmed query, which stands at the offset. -/
def Diagnostic.Shows (d : Diagnostic) (offset : Nat) (part : List Char) : Prop :=
  match d.kind with
  | .tableNotFound => d.message = "Table '" ++ String.ofList part ++ "' not found in schema"
  | .unbalancedParentheses =>
    part = [')'] ∧ d.message =
      "Syntax error: unbalanced parentheses (unexpected ')' at offset " ++ offset.repr ++ ")"
  | .missingTableName => IsPair "from" "where" part
  | .missingColumnList => IsPair "select" "from" part
  | .missingGroupBy =>
    ∃ name gap, part = name ++ gap ++ ['('] ∧ (∃ a ∈ aggregates, spells a name = true) ∧
      IsBlankText gap
  | .possibleCrossJoin => ∃ join rest, part = join ++ rest ∧ spells "join" join = true
  | .unfilteredMutation =>
    (spells "delete" part = true ∨ spells "update" part = true) ∧ d.message =
      "Dangerous operation: " ++ String.ofList (part.map Char.toUpper) ++
        " without WHERE clause affects every row"
  | .injectedDrop =>
    ∃ gap drop, part = [';'] ++ gap ++ drop ∧ IsBlankText gap ∧ spells "drop" drop = true
  | .injectedComment => part = ['-', '-']
  | .injectedTautology => IsTautology part
  | _ => False

namespace Query

open Schema (Model)

/-- What a finding is about is marked in the trimmed query by its span, if it has one. -/
def Finding.Located (query : List Char) (f : Finding) : Prop :=
  ∀ s, f.span? = some s →
    ∃ part, s.Marks query part ∧ Framed part ∧ f.diagnostic.Shows s.offset part

theorem located_of_span?_eq_none {query : List Char} {f : Finding} (h : f.span? = none) :
    f.Located query := by
  intro s hs
  rw [h] at hs
  exact absurd hs (by simp)

/-! ## Scans over words -/

variable {query : List Char} {w v : Word} {us ws : List Word}

theorem marks_of_suffix (h : w :: ws <:+ wordsOf query) : w.span.Marks query w.text := by
  obtain ⟨before, hremain⟩ := exists_remain_of_suffix h
  exact hremain.marks_span

theorem marks_upTo_of_suffix (h : w :: us ++ v :: ws <:+ wordsOf query) :
    (w.span.upTo v.span).Marks query (w.text ++ (w.after ++ Word.textOf us) ++ v.text) := by
  obtain ⟨before, hremain⟩ := exists_remain_of_suffix h
  have hmarks := hremain.marks_upTo
  rwa [Word.textOf_cons, List.append_assoc w.text] at hmarks

theorem marks_of_mem (h : w ∈ wordsOf query) : w.span.Marks query w.text := by
  obtain ⟨us, ws, hsplit⟩ := List.append_of_mem h
  have hsuffix : w :: ws <:+ wordsOf query := ⟨us, hsplit.symm⟩
  exact marks_of_suffix hsuffix

theorem framed_of_mem (h : w ∈ wordsOf query) : Framed w.text := by
  obtain ⟨hne, hchars⟩ := isWordText_of_mem_wordsOf h
  exact framed_of_isWordChar hne hchars

theorem marks_of_adjacentSpan? {first second : String} {s : Span}
    (h : adjacentSpan? first second (wordsOf query) = some s) :
    ∃ part, s.Marks query part ∧ Framed part ∧ IsPair first second part := by
  simp only [adjacentSpan?, Option.map_eq_some_iff] at h
  obtain ⟨⟨v, w, rest⟩, hpair, rfl⟩ := h
  obtain ⟨hsuffix, hv, hblank, hw⟩ := adjacentPair?_eq_some hpair
  have hmarks : (v.span.upTo w.span).Marks query (v.text ++ v.after ++ w.text) := by
    have h := @marks_upTo_of_suffix query v w [] rest hsuffix
    rwa [Word.textOf_nil, List.append_nil] at h
  have hmem := hsuffix.subset
  have hapart : v.after ≠ [] := by
    obtain ⟨before, hremain⟩ := exists_remain_of_suffix hsuffix
    cases hremain.laid with
    | cons _ _ _ apart => exact apart (List.cons_ne_nil _ _)
  exact ⟨_, hmarks, (framed_of_mem (hmem (by simp))).append _ (framed_of_mem (hmem (by simp))),
    v.text, v.after, w.text, rfl, hv, hapart, hblank, hw⟩

theorem located_aggregate {s : Span} (h : aggregateSpan? (wordsOf query) = some s) :
    (Finding.missingGroupBy s).Located query := by
  obtain ⟨w, rest, tail, hsuffix, hone, htrim, rfl⟩ := aggregateSpan?_eq_some h
  obtain ⟨before, hremain⟩ := exists_remain_of_suffix hsuffix
  rintro s ⟨⟩
  refine ⟨w.text ++ blankPrefix w.after ++ ['('], ⟨before, tail ++ Word.textOf rest, ?_, ?_⟩,
    (framed_of_mem (hsuffix.subset List.mem_cons_self)).append _ (framed_singleton (by decide)),
    w.text, blankPrefix w.after, rfl, ?_, isBlankText_blankPrefix _⟩
  · have hsplit := blankPrefix_append_trimStart w.after
    rw [htrim] at hsplit
    rw [hremain.text, Word.textOf_cons]
    conv_lhs => rw [← hsplit]
    simp only [List.append_assoc, List.cons_append, List.nil_append]
  · cases hremain.laid with
    | cons start => rw [Span.ofParts, start, byteSize_append _ ['(']]; rfl
  · simpa [Word.isOneOf, Word.is] using hone

theorem located_crossJoin {s : Span} (h : crossJoinSpan? (wordsOf query) = some s) :
    (Finding.possibleCrossJoin s).Located query := by
  simp only [crossJoinSpan?, Option.map_eq_some_iff] at h
  obtain ⟨u, hu, rfl⟩ := h
  obtain ⟨hjoin, us, rest, hsuffix⟩ := exists_of_mem_joinUses (List.mem_of_find?_eq_some hu)
  have hmem := hsuffix.subset
  rintro s ⟨⟩
  exact ⟨_, marks_upTo_of_suffix hsuffix,
    (framed_of_mem (hmem (by simp))).append _ (framed_of_mem (hmem (by simp))),
    u.join.text, _, List.append_assoc .., hjoin⟩

theorem located_mutation {f : Finding} (h : mutationFinding? (wordsOf query) = some f) :
    f.Located query := by
  rw [mutationFinding?] at h
  split at h
  next w hw =>
    rw [Option.ite_none_left_eq_some, Option.some.injEq] at h
    obtain ⟨-, rfl⟩ := h
    have hmem := List.mem_of_find?_eq_some hw
    have hone : w.isOneOf ["delete", "update"] = true := by simpa using List.find?_some hw
    rintro s ⟨⟩
    refine ⟨w.text, marks_of_mem hmem, framed_of_mem hmem, ?_, rfl⟩
    simpa [Word.isOneOf, Word.is] using hone
  next => exact absurd h (by simp)

theorem located_tableNotFound (h : w ∈ wordsOf query) :
    (Finding.tableNotFound w.name w.span).Located query := by
  rintro s ⟨⟩
  exact ⟨w.text, marks_of_mem h, framed_of_mem h, rfl⟩

/-! ## Scans over characters -/

theorem located_of_mem_scanParentheses {f : Finding} (h : f ∈ scanParentheses 0 0 query) :
    f.Located query := by
  have hreport := isParenthesisReport_scanParentheses query
  generalize scanParentheses 0 0 query = found at h hreport
  cases hreport with
  | @excess front hfront =>
    obtain rfl := List.mem_singleton.1 h
    obtain ⟨rest, rfl⟩ := hfront
    rintro s ⟨⟩
    exact ⟨[')'], ⟨front, rest, rfl, rfl⟩, framed_singleton (by decide), rfl, rfl⟩
  | unclosed =>
    obtain rfl := List.mem_singleton.1 h
    exact located_of_span?_eq_none rfl
  | balanced => exact absurd h List.not_mem_nil

/-- What a scan for parts of some kind leads to marks such a part. -/
theorem exists_marks_of_scansFor {scan : Nat → List Char → Option Span}
    {M : List Char → List Char → Prop} (hscan : ScansFor scan M) {s : Span}
    (h : scan 0 query = some s) : ∃ part after, s.Marks query part ∧ M part after := by
  obtain ⟨front, part, after, ⟨rfl, hM, -⟩, rfl⟩ := hscan.exists_of_eq_some h
  exact ⟨part, after, ⟨front, after, (List.append_assoc ..).symm, rfl⟩, hM⟩

theorem located_drop {s : Span} (h : dropSpan? 0 query = some s) :
    (Finding.injectedDrop s).Located query := by
  obtain ⟨part, after, hmarks, @⟨blanks, word, _, hblanks, hrun, hword⟩⟩ :=
    exists_marks_of_scansFor scansFor_dropSpan? h
  rintro s ⟨⟩
  have hframed : Framed ([';'] ++ blanks ++ word) :=
    (framed_singleton (by decide)).append _
      (framed_of_isWordChar hrun.isWordText.ne_nil hrun.isWordText.isWordChar)
  exact ⟨_, hmarks, hframed, blanks, word, rfl, hblanks, spells_iff_isOneOf.2 hword⟩

theorem located_comment {s : Span} (h : commentSpan? 0 query = some s) :
    (Finding.injectedComment s).Located query := by
  obtain ⟨part, after, hmarks, rfl, -⟩ := exists_marks_of_scansFor scansFor_commentSpan? h
  rintro s ⟨⟩
  exact ⟨_, hmarks, (framed_singleton (by decide)).append [] (framed_singleton (by decide)), rfl⟩

theorem framed_of_isTautology {part : List Char} (h : IsTautology part) : Framed part := by
  obtain ⟨front, word, behind, left, right, rfl, -⟩ := h
  have hend : Framed ['\'', '1'] :=
    (framed_singleton (by decide)).append [] (framed_singleton (by decide))
  exact (framed_singleton (by decide)).append _ hend

theorem located_tautology {s : Span} (h : tautologySpan? 0 query = some s) :
    (Finding.injectedTautology s).Located query := by
  obtain ⟨part, after, hmarks, htautology⟩ := exists_marks_of_scansFor scansFor_tautologySpan? h
  rintro s ⟨⟩
  exact ⟨part, hmarks, framed_of_isTautology htautology, htautology⟩

/-! ## The passes -/

theorem located_of_mem_balanceFindings {f : Finding} (h : f ∈ balanceFindings query) :
    f.Located query := by
  simp only [balanceFindings, List.mem_append, List.mem_ite_nil_right, List.mem_singleton,
    Option.mem_toList, Option.map_eq_some_iff] at h
  rcases h with (((⟨-, rfl⟩ | ⟨-, rfl⟩) | hscan) | ⟨s, hs, rfl⟩) | ⟨s, hs, rfl⟩
  · exact located_of_span?_eq_none rfl
  · exact located_of_span?_eq_none rfl
  · exact located_of_mem_scanParentheses hscan
  · rintro s ⟨⟩
    exact marks_of_adjacentSpan? hs
  · rintro s ⟨⟩
    exact marks_of_adjacentSpan? hs

theorem located_of_mem_referenceFindings {schema : Option Model} {f : Finding}
    (h : f ∈ referenceFindings schema query) : f.Located query := by
  cases schema with
  | none =>
    obtain rfl := List.mem_singleton.1 h
    exact located_of_span?_eq_none rfl
  | some m =>
    rcases List.mem_append.1 h with h | h
    · simp only [unknownTables, List.mem_map, List.mem_filter] at h
      obtain ⟨w, ⟨hw, -⟩, rfl⟩ := h
      exact located_tableNotFound (mem_of_mem_tableReferences (mem_of_mem_firstOccurrences hw))
    · rw [unknownColumns] at h
      split at h
      · exact absurd h List.not_mem_nil
      · split at h
        · exact absurd h List.not_mem_nil
        · obtain ⟨p, -, rfl⟩ := List.mem_map.1 h
          exact located_of_span?_eq_none rfl

theorem located_of_mem_groupingFindings {f : Finding} (h : f ∈ groupingFindings query) :
    f.Located query := by
  simp only [groupingFindings] at h
  split at h
  · split at h
    next span list hspan _ =>
      split at h
      · exact absurd h List.not_mem_nil
      · obtain rfl := List.mem_singleton.1 h
        exact located_aggregate hspan
    next => exact absurd h List.not_mem_nil
  · split at h
    · obtain ⟨e, -, rfl⟩ := List.mem_map.1 h
      exact located_of_span?_eq_none rfl
    · exact absurd h List.not_mem_nil

theorem located_of_mem_joinFindings {f : Finding} (h : f ∈ joinFindings query) :
    f.Located query := by
  simp only [joinFindings, List.mem_append, List.mem_ite_nil_right, List.mem_singleton,
    Option.mem_toList, Option.map_eq_some_iff] at h
  rcases h with ⟨s, hs, rfl⟩ | ⟨-, rfl⟩
  · exact located_crossJoin hs
  · exact located_of_span?_eq_none rfl

theorem located_of_mem_safetyFindings {f : Finding} (h : f ∈ safetyFindings query) :
    f.Located query := by
  simp only [safetyFindings, List.mem_append, List.mem_ite_nil_right, List.mem_singleton,
    Option.mem_toList, Option.map_eq_some_iff] at h
  rcases h with (((hmutation | ⟨-, rfl⟩) | ⟨s, hs, rfl⟩) | ⟨s, hs, rfl⟩) | ⟨s, hs, rfl⟩
  · exact located_mutation hmutation
  · exact located_of_span?_eq_none rfl
  · exact located_drop hs
  · exact located_comment hs
  · exact located_tautology hs

/-- In the trimmed query every span marks what its finding is about. -/
theorem located_of_mem_findings {schema : Option Model} {f : Finding}
    (h : f ∈ findings schema query) : f.Located query := by
  rw [findings_eq_append] at h
  simp only [List.mem_append] at h
  rcases h with h | h | h | h | h
  · exact located_of_mem_balanceFindings h
  · exact located_of_mem_referenceFindings h
  · exact located_of_mem_groupingFindings h
  · exact located_of_mem_joinFindings h
  · exact located_of_mem_safetyFindings h

/-! ## The query as given -/

/-- The span of a complaint, as a slice of the query as given.  The last field says what the slice
is; the offset in it counts from the end of the white space in front. -/
structure Cuts (sql : String) (d : Diagnostic) (s : Span) : Prop where
  length_pos : 1 ≤ s.length
  isValid_offset : String.Pos.Raw.IsValid sql ⟨s.offset⟩
  isValid_end : String.Pos.Raw.IsValid sql ⟨s.offset + s.length⟩
  le_offset : byteSize (blankPrefix sql.toList) ≤ s.offset
  end_le : s.offset + s.length ≤ byteSize (blankPrefix sql.toList) + byteSize (trim sql.toList)
  framed : Framed (s.slice sql).toList
  shows : d.Shows (s.offset - byteSize (blankPrefix sql.toList)) (s.slice sql).toList

/-- Every span in the complaints about a query marks a part of it that neither begins nor ends in
white space. -/
theorem exists_marks_of_mem_check {schema : Option Model} {sql : String} {d : Diagnostic} {s : Span}
    (hd : d ∈ check schema sql) (hs : d.span = some s) :
    ∃ part, s.Marks sql.toList part ∧ Framed part := by
  simp only [check, List.mem_map] at hd
  obtain ⟨f, hf, rfl⟩ := hd
  obtain ⟨s, hs', rfl⟩ := Option.map_eq_some_iff.1 hs
  obtain ⟨part, hmarks, hframed, -⟩ := located_of_mem_findings hf s hs'
  have hall := hmarks.shifted (blankPrefix sql.toList) (blankSuffix sql.toList)
  rw [blankPrefix_append_trim_append_blankSuffix] at hall
  exact ⟨part, hall, hframed⟩

/-- Every span in the complaints about a query cuts out of the query what the complaint is
about. -/
theorem check_span_shows {schema : Option Model} {sql : String} {d : Diagnostic} {s : Span}
    (hd : d ∈ check schema sql) (hs : d.span = some s) : Cuts sql d s := by
  simp only [check, List.mem_map] at hd
  obtain ⟨f, hf, rfl⟩ := hd
  obtain ⟨s, hs', rfl⟩ := Option.map_eq_some_iff.1 hs
  obtain ⟨part, hmarks, hframed, hshows⟩ := located_of_mem_findings hf s hs'
  have hall := hmarks.shifted (blankPrefix sql.toList) (blankSuffix sql.toList)
  rw [blankPrefix_append_trim_append_blankSuffix] at hall
  have hend := hmarks.offset_add_length_le
  have hlength : 1 ≤ s.length := by
    obtain ⟨before, after, -, rfl⟩ := hmarks
    exact byteSize_pos hframed.ne_nil
  refine ⟨hlength, hall.isValid_offset, hall.isValid_end, ?_, ?_, ?_, ?_⟩
  · exact Nat.le_add_left _ _
  · simp only [Span.shifted]
    omega
  · rwa [hall.slice_eq, String.toList_ofList]
  · rw [hall.slice_eq, String.toList_ofList]
    simp only [Span.shifted, Nat.add_sub_cancel]
    exact hshows

/-- Behind white space of three bytes, the offset of the span and the one in the message differ. -/
theorem cuts_closing_parenthesis :
    ∃ d ∈ check none "\u3000SELECT 1)", d.span = some ⟨11, 1⟩ ∧
      Cuts "\u3000SELECT 1)" d ⟨11, 1⟩ := by
  have hd : (Finding.unexpectedClose 8).diagnostic.shifted 3 ∈ check none "\u3000SELECT 1)" := by
    decide +kernel
  exact ⟨_, hd, rfl, check_span_shows hd rfl⟩

end Query

end QueryLint
