import QueryLint.Proofs.Query.Marks
import QueryLint.Proofs.Query.Parentheses

/-!
# Queries without anything to complain about

A query is quiet (`Quiet`) if nothing in it calls for a complaint but, possibly, the tables and
columns it refers to: it has none of the characters that one of the checks looks for, none of the
keywords that change, filter or group, a LIMIT, every JOIN has its ON, and every condition
qualifies a column.  In a quiet query there are no findings but those of the references
(`Quiet.findings_eq`).

To see that a query that is given by its words is quiet, one goes through the words from the
left.  The step lemmas say for each scan what one word, or one join, does to it.

* `tableReferences_append_of_not`, `joinUses_append_of_not`, `conditionBodies_append_of_not`: words
  that a scan passes over.
* `joinUses_cons_on`: a JOIN with its ON.
* `textUpTo_append`: the text behind WHERE or ON up to the word that closes it.
* `textBeforeFrom?_cons`, `textBeforeFrom?_from`: the list behind SELECT.
-/

namespace QueryLint.Query

open Text
open Schema (Model)

/-! ## Words that a scan passes over -/

variable {w v : Word} {us ws : List Word}

theorem tableReferences_cons_of_not (h : w.isOneOf ["from", "join"] = false) :
    tableReferences (w :: ws) = tableReferences ws := by
  cases ws with
  | nil => rfl
  | cons v ws => rw [tableReferences, if_neg (by simp [h])]

theorem tableReferences_append_of_not (h : ∀ u ∈ us, u.isOneOf ["from", "join"] = false) :
    tableReferences (us ++ ws) = tableReferences ws := by
  induction us with
  | nil => rfl
  | cons u us ih =>
    obtain ⟨hu, hus⟩ := List.forall_mem_cons.1 h
    rw [List.cons_append, tableReferences_cons_of_not hu, ih hus]

theorem tableReferences_eq_nil (h : ∀ w ∈ ws, w.isOneOf ["from", "join"] = false) :
    tableReferences ws = [] := by
  have happend : tableReferences (ws ++ []) = tableReferences [] := tableReferences_append_of_not h
  rw [List.append_nil] at happend
  rw [happend, tableReferences]
  exact fun w v rest heq => absurd heq (by simp)

/-- A word behind FROM or JOIN is a reference. -/
theorem tableReferences_cons_name (hw : w.isOneOf ["from", "join"] = true)
    (hblank : IsBlankText w.after) :
    tableReferences (w :: v :: ws) = v :: tableReferences ws := by
  rw [tableReferences, if_pos]
  rw [Bool.and_eq_true, List.all_eq_true]
  exact ⟨hw, hblank⟩

theorem joinUses_cons_of_not (h : w.is "join" = false) : joinUses (w :: ws) = joinUses ws := by
  rw [joinUses]
  split
  · rw [if_neg (by simp [h])]
  · rfl

theorem joinUses_append_of_not (h : ∀ u ∈ us, u.is "join" = false) :
    joinUses (us ++ ws) = joinUses ws := by
  induction us with
  | nil => rfl
  | cons u us ih =>
    obtain ⟨hu, hus⟩ := List.forall_mem_cons.1 h
    rw [List.cons_append, joinUses_cons_of_not hu, ih hus]

theorem joinUses_eq_nil (h : ∀ w ∈ ws, w.is "join" = false) : joinUses ws = [] := by
  have happend : joinUses (ws ++ []) = joinUses [] := joinUses_append_of_not h
  rwa [List.append_nil, joinUses] at happend

/-- A JOIN with its ON right behind the table: both are read, and one word more. -/
theorem joinUses_cons_on {table on operand : Word} (hjoin : w.is "join" = true)
    (hw : IsBlankText w.after) (htable : IsBlankText table.after) (hon : on.is "on" = true)
    (hblank : IsBlankText on.after) :
    joinUses (w :: table :: on :: operand :: ws) = ⟨w, operand, true⟩ :: joinUses ws := by
  have has : on.is "as" = false := by
    have hfold := spells_iff.1 hon
    rw [Word.is, spells, hfold]
    rfl
  have hnext : w.next? (table :: on :: operand :: ws) = some (table, on :: operand :: ws) :=
    next?_eq_some.2 ⟨rfl, hw⟩
  have hread : readJoin table (on :: operand :: ws) = (operand, true, ws) := by
    have htwo : on.next? (operand :: ws) = some (operand, ws) := next?_eq_some.2 ⟨rfl, hblank⟩
    have hone : table.next? (on :: operand :: ws) = some (on, operand :: ws) :=
      next?_eq_some.2 ⟨rfl, htable⟩
    simp [readJoin, hone, htwo, has, hon]
  rw [joinUses]
  split
  next table' rest h =>
    rw [hnext] at h
    obtain ⟨rfl, rfl⟩ := Prod.mk.inj (Option.some.inj h)
    rw [if_pos hjoin, hread]
  next h => exact absurd (hnext.symm.trans h) (by simp)

theorem conditionBodies_cons_of_not (h : w.isOneOf ["where", "on"] = false) :
    conditionBodies (w :: ws) = conditionBodies ws := by
  rw [conditionBodies, if_neg (by simp [h])]

theorem conditionBodies_append_of_not (h : ∀ u ∈ us, u.isOneOf ["where", "on"] = false) :
    conditionBodies (us ++ ws) = conditionBodies ws := by
  induction us with
  | nil => rfl
  | cons u us ih =>
    obtain ⟨hu, hus⟩ := List.forall_mem_cons.1 h
    rw [List.cons_append, conditionBodies_cons_of_not hu, ih hus]

/-- A text goes up to the word that closes it. -/
theorem textUpTo_append {closers : List String} (hus : ∀ u ∈ us, u.isOneOf closers = false)
    (hw : w.isOneOf closers = true) (gap : List Char) :
    textUpTo closers gap (us ++ w :: ws) = (gap ++ Word.textOf us, ws) := by
  induction us generalizing gap with
  | nil => rw [List.nil_append, textUpTo, if_pos hw, Word.textOf_nil, List.append_nil]
  | cons u us ih =>
    obtain ⟨hu, hus⟩ := List.forall_mem_cons.1 hus
    rw [List.cons_append, textUpTo, if_neg (by simp [hu]), ih hus]
    simp only [Word.textOf_cons, List.append_assoc]

/-- A word in the list behind SELECT. -/
theorem textBeforeFrom?_cons (h : w.is "from" = false) (gap : List Char) :
    textBeforeFrom? gap (w :: ws) =
      (textBeforeFrom? w.after ws).map fun text => gap ++ w.text ++ text := by
  rw [textBeforeFrom?, if_neg (by simp [h])]

/-- The end of the list behind SELECT. -/
theorem textBeforeFrom?_from (h : w.is "from" = true) {gap : List Char}
    (hgap : endsBlank gap = true) : textBeforeFrom? gap (w :: ws) = some gap := by
  rw [textBeforeFrom?, if_pos (by simp [h, hgap])]

/-! ## Scans that come upon nothing -/

theorem adjacentPair?_eq_none_of_first {first second : String}
    (h : ∀ u ∈ ws, u.is first = false) : adjacentPair? first second ws = none := by
  rw [Option.eq_none_iff_forall_not_mem]
  rintro ⟨v, w, rest⟩ hpair
  obtain ⟨hsuffix, hv, -⟩ := adjacentPair?_eq_some hpair
  rw [h v (hsuffix.subset List.mem_cons_self)] at hv
  exact absurd hv (by simp)

theorem adjacentPair?_eq_none_of_second {first second : String}
    (h : ∀ u ∈ ws, u.is second = false) : adjacentPair? first second ws = none := by
  rw [Option.eq_none_iff_forall_not_mem]
  rintro ⟨v, w, rest⟩ hpair
  obtain ⟨hsuffix, -, -, hw⟩ := adjacentPair?_eq_some hpair
  rw [h w (hsuffix.subset (List.mem_cons_of_mem v List.mem_cons_self))] at hw
  exact absurd hw (by simp)

/-- Only the first word is the first keyword, and it has no neighbour that is the second. -/
theorem adjacentPair?_cons_eq_none {first second : String}
    (hfirst : ∀ u ∈ v :: ws, u.is first = false)
    (hsecond : v.is second = false ∨ ¬ IsBlankText w.after) :
    adjacentPair? first second (w :: v :: ws) = none := by
  rw [adjacentPair?, if_neg]
  · exact adjacentPair?_eq_none_of_first hfirst
  · simp only [Bool.and_eq_true, List.all_eq_true]
    rintro ⟨⟨-, hblank⟩, hv⟩
    rcases hsecond with hnot | hnot
    · exact absurd hv (by simp [hnot])
    · exact hnot hblank

theorem aggregateSpan?_eq_none (h : ∀ u ∈ ws, '(' ∉ u.after) : aggregateSpan? ws = none := by
  rw [Option.eq_none_iff_forall_not_mem]
  intro s hs
  obtain ⟨w, rest, tail, hsuffix, -, htrim, -⟩ := aggregateSpan?_eq_some hs
  obtain ⟨gap, -, hafter⟩ := exists_of_trimStart_eq htrim
  refine h w (hsuffix.subset List.mem_cons_self) ?_
  rw [hafter]
  exact List.mem_append_right gap List.mem_cons_self

theorem scanParentheses_eq_nil {cs : List Char} (hopen : '(' ∉ cs) (hclose : ')' ∉ cs)
    (pos : Nat) : scanParentheses 0 pos cs = [] := by
  have hnone : parentheses cs = [] := by
    rw [parentheses, List.filter_eq_nil_iff]
    intro c hc
    simp [ne_of_mem_of_not_mem hc hopen, ne_of_mem_of_not_mem hc hclose]
  rw [scanParentheses_eq_nil_iff, hnone, closes_nil_iff]

theorem oddlyMany_eq_false {c : Char} {cs : List Char} (h : c ∉ cs) : oddlyMany c cs = false := by
  rw [oddlyMany, List.count_eq_zero.2 h]
  rfl

/-! ## Quiet queries -/

/-- Nothing in the query calls for a complaint but the tables and columns that it refers to. -/
structure Quiet (query : List Char) : Prop where
  plain : ∀ c ∈ ['\'', '"', '(', ')', ';', '-'], c ∉ query
  tame : ∀ w ∈ wordsOf query, ∀ keyword ∈ ["where", "group", "delete", "update"],
    w.is keyword = false
  listed : adjacentPair? "select" "from" (wordsOf query) = none
  limited : (wordsOf query).any (·.is "limit") = true
  joined : ∀ u ∈ joinUses (wordsOf query), u.conditioned = true
  qualified : ∀ body ∈ conditionBodies (wordsOf query), isUnqualified body = false

namespace Quiet

variable {query : List Char}

theorem not_paren_mem_after (h : Quiet query) {w : Word} (hw : w ∈ wordsOf query) :
    '(' ∉ w.after := by
  intro hparen
  refine h.plain '(' (by simp) ?_
  obtain ⟨us, ws, hsplit⟩ := List.append_of_mem hw
  rw [(remain_wordsOf query).text, hsplit]
  simp [hparen]

theorem balanceFindings_eq (h : Quiet query) : balanceFindings query = [] := by
  have hwhere : adjacentPair? "from" "where" (wordsOf query) = none :=
    adjacentPair?_eq_none_of_second fun w hw => h.tame w hw "where" (by simp)
  have hquote := oddlyMany_eq_false (h.plain '\'' (by simp))
  have hdouble := oddlyMany_eq_false (h.plain '"' (by simp))
  have hscan := scanParentheses_eq_nil (h.plain '(' (by simp)) (h.plain ')' (by simp)) 0
  simp [balanceFindings, adjacentSpan?, hwhere, h.listed, hquote, hdouble, hscan]

theorem groupingFindings_eq (h : Quiet query) : groupingFindings query = [] := by
  have hgroup : adjacentPair? "group" "by" (wordsOf query) = none :=
    adjacentPair?_eq_none_of_first fun w hw => h.tame w hw "group" (by simp)
  have haggregate := aggregateSpan?_eq_none fun w hw => h.not_paren_mem_after hw
  simp [groupingFindings, hgroup, haggregate]

theorem joinFindings_eq (h : Quiet query) : joinFindings query = [] := by
  have hcross : crossJoinSpan? (wordsOf query) = none := by
    rw [crossJoinSpan?, List.find?_eq_none.2, Option.map_none]
    intro u hu
    simp [h.joined u hu]
  have hbody : (conditionBodies (wordsOf query)).any isUnqualified = false :=
    List.any_eq_false.2 fun body hb => by simp [h.qualified body hb]
  simp [joinFindings, hcross, hbody]

theorem safetyFindings_eq (h : Quiet query) : safetyFindings query = [] := by
  have hmutation : mutationFinding? (wordsOf query) = none := by
    have hfirst : firstOf? ["delete", "update"] (wordsOf query) = none := by
      rw [firstOf?, List.find?_eq_none]
      intro w hw
      simp [Word.isOneOf, h.tame w hw "delete" (by simp), h.tame w hw "update" (by simp)]
    rw [mutationFinding?, hfirst]
  have hdrop := scansFor_dropSpan?.eq_none_of_notMem IsDropMark.head? (h.plain ';' (by simp)) 0
  have hcomment :=
    scansFor_commentSpan?.eq_none_of_notMem IsCommentMark.head? (h.plain '-' (by simp)) 0
  have htautology :=
    scansFor_tautologySpan?.eq_none_of_notMem IsTautology.head? (h.plain '\'' (by simp)) 0
  simp [safetyFindings, hmutation, h.limited, hdrop, hcomment, htautology]

/-- A quiet query can only refer to what the schema does not have. -/
theorem findings_eq (h : Quiet query) (schema : Option Model) :
    findings schema query = referenceFindings schema query := by
  rw [findings_eq_append, h.balanceFindings_eq, h.groupingFindings_eq, h.joinFindings_eq,
    h.safetyFindings_eq, List.nil_append, List.nil_append, List.append_nil, List.append_nil]

/-- The complaints about a quiet query that needs no trimming. -/
theorem check_eq {query : String} (h : Quiet query.toList) (hframed : Framed query.toList)
    (m : Model) :
    check (some m) query =
      (unknownTables m query.toList ++ unknownColumns m query.toList).map Finding.diagnostic := by
  simp only [check, hframed.trim_eq, hframed.blankPrefix_eq, byteSize_nil, Diagnostic.shifted_zero,
    h.findings_eq, referenceFindings]

end Quiet

end QueryLint.Query
