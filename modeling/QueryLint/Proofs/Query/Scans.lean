import QueryLint.Proofs.Text.Readings
import QueryLint.Proofs.Text.Trimming
import QueryLint.Query.Check

/-!
# What the scans of a query come upon

The checks move over the words of a query, or over its characters, and stop or take note where
they come upon something.  For each scan this module says where that is and what stands there.

* `next?_eq_some`, `adjacentPair?_eq_some`: words with nothing but white space between them.
* `aggregateSpan?_eq_some`: an aggregate and its parenthesis.
* `mem_of_mem_tableReferences`, `mem_of_mem_firstOccurrences`: references are words of the query.
* `exists_readJoin`, `exists_of_mem_joinUses`: the words that are read for a JOIN stand one behind
  the other.
* `after?_eq_some`, `afterOr?_eq_some`, `afterTautology?_eq_some`: what has been read when a text
  is left.

Where a scan goes over words, the place is given by the words that are left: they are a suffix of
all words, and `exists_remain_of_suffix` turns that into a place in the text.
-/

namespace QueryLint.Query

open Text

/-! ## Neighbours -/

theorem next?_eq_some {w v : Word} {ws rest : List Word} :
    w.next? ws = some (v, rest) ↔ ws = v :: rest ∧ IsBlankText w.after := by
  cases ws with
  | nil => simp [Word.next?]
  | cons u us =>
    simp only [Word.next?, Option.ite_none_right_eq_some, Option.some.injEq, Prod.mk.injEq,
      List.cons.injEq, List.all_eq_true, IsBlankText]
    exact and_comm

theorem adjacentPair?_eq_some {first second : String} {ws rest : List Word} {v w : Word}
    (h : adjacentPair? first second ws = some (v, w, rest)) :
    v :: w :: rest <:+ ws ∧ v.is first = true ∧ IsBlankText v.after ∧ w.is second = true := by
  fun_induction adjacentPair? first second ws with
  | case1 a b us hpair =>
    simp only [Option.some.injEq, Prod.mk.injEq] at h
    obtain ⟨rfl, rfl, rfl⟩ := h
    simp only [Bool.and_eq_true, List.all_eq_true] at hpair
    exact ⟨List.suffix_rfl, hpair.1.1, hpair.1.2, hpair.2⟩
  | case2 a b us _ ih =>
    obtain ⟨hsuffix, hpair⟩ := ih h
    exact ⟨hsuffix.trans (List.suffix_cons a _), hpair⟩
  | case3 => exact absurd h (by simp)

/-! ## Aggregates -/

theorem aggregateSpan?_eq_some {ws : List Word} {s : Span} (h : aggregateSpan? ws = some s) :
    ∃ w rest tail, w :: rest <:+ ws ∧ w.isOneOf aggregates = true ∧
      trimStart w.after = '(' :: tail ∧
        s = ⟨w.start, byteSize (w.text ++ blankPrefix w.after) + 1⟩ := by
  induction ws with
  | nil => exact absurd h (by simp [aggregateSpan?])
  | cons w ws ih =>
    rw [aggregateSpan?] at h
    split at h
    next tail hone htrim =>
      exact ⟨w, ws, tail, List.suffix_rfl, hone, htrim, (Option.some.inj h).symm⟩
    next =>
      obtain ⟨v, rest, tail, hsuffix, hv⟩ := ih h
      exact ⟨v, rest, tail, hsuffix.trans (List.suffix_cons w ws), hv⟩

/-! ## References -/

theorem mem_of_mem_tableReferences {ws : List Word} {w : Word} (h : w ∈ tableReferences ws) :
    w ∈ ws := by
  fun_induction tableReferences ws with
  | case1 a b us _ ih =>
    rcases List.mem_cons.1 h with rfl | h
    · exact List.mem_cons_of_mem a List.mem_cons_self
    · exact List.mem_cons_of_mem a (List.mem_cons_of_mem b (ih h))
  | case2 a b us _ ih => exact List.mem_cons_of_mem a (ih h)
  | case3 => exact absurd h List.not_mem_nil

theorem mem_of_mem_firstOccurrences {seen : List (List Char)} {ws : List Word} {w : Word}
    (h : w ∈ firstOccurrences seen ws) : w ∈ ws := by
  fun_induction firstOccurrences seen ws with
  | case1 => exact h
  | case2 seen v us _ ih => exact List.mem_cons_of_mem v (ih h)
  | case3 seen v us _ ih =>
    rcases List.mem_cons.1 h with rfl | h
    · exact List.mem_cons_self
    · exact List.mem_cons_of_mem v (ih h)

/-- What is met is met a first time. -/
theorem exists_mem_firstOccurrences {seen : List (List Char)} {ws : List Word} {w : Word}
    (h : w ∈ ws) (hnew : w.text ∉ seen) : ∃ v ∈ firstOccurrences seen ws, v.text = w.text := by
  fun_induction firstOccurrences seen ws with
  | case1 => exact absurd h List.not_mem_nil
  | case2 seen v ws hseen ih =>
    rcases List.mem_cons.1 h with rfl | h
    · exact absurd hseen hnew
    · exact ih h hnew
  | case3 seen v ws _ ih =>
    rcases List.mem_cons.1 h with rfl | h
    · exact ⟨w, List.mem_cons_self, rfl⟩
    by_cases hw : w.text = v.text
    · exact ⟨v, List.mem_cons_self, hw.symm⟩
    · obtain ⟨u, hu, htext⟩ := ih h (by simp [hw, hnew])
      exact ⟨u, List.mem_cons_of_mem v hu, htext⟩

/-! ## Joins -/

/-- The table of a JOIN, or the AS behind it, and the words that are left. -/
def passAs (table : Word) (ws : List Word) : Word × List Word :=
  match table.next? ws with
  | some (v, rest) => if v.is "as" then (v, rest) else (table, ws)
  | none => (table, ws)

/-- Up to two words, each adjacent to the one before: the last one, whether one of them is ON, and
the words that are left. -/
def readTwo (last : Word) (ws : List Word) : Word × Bool × List Word :=
  match last.next? ws with
  | none => (last, false, ws)
  | some (v, rest) =>
    match v.next? rest with
    | none => (v, v.is "on", rest)
    | some (u, rest) => (u, v.is "on" || u.is "on", rest)

/-- What is read for a JOIN are an AS and two words. -/
theorem readJoin_eq (table : Word) (ws : List Word) :
    readJoin table ws = readTwo (passAs table ws).1 (passAs table ws).2 := rfl

theorem exists_passAs (table : Word) (ws : List Word) :
    ∃ us, table :: ws = us ++ (passAs table ws).1 :: (passAs table ws).2 := by
  rw [passAs]
  split
  next v rest hv =>
    obtain ⟨rfl, -⟩ := next?_eq_some.1 hv
    split
    · exact ⟨[table], rfl⟩
    · exact ⟨[], rfl⟩
  next => exact ⟨[], rfl⟩

theorem exists_readTwo (last : Word) (ws : List Word) :
    ∃ us, last :: ws = us ++ (readTwo last ws).1 :: (readTwo last ws).2.2 := by
  rw [readTwo]
  split
  next => exact ⟨[], rfl⟩
  next v rest hv =>
    obtain ⟨rfl, -⟩ := next?_eq_some.1 hv
    split
    next => exact ⟨[last], rfl⟩
    next u rest hu =>
      obtain ⟨rfl, -⟩ := next?_eq_some.1 hu
      exact ⟨[last, v], rfl⟩

/-- The words that are read for a JOIN, from its table to the last one, stand in front of the
words that are left. -/
theorem exists_readJoin (table : Word) (ws : List Word) :
    ∃ us, table :: ws = us ++ (readJoin table ws).1 :: (readJoin table ws).2.2 := by
  obtain ⟨us, hus⟩ := exists_passAs table ws
  obtain ⟨vs, hvs⟩ := exists_readTwo (passAs table ws).1 (passAs table ws).2
  exact ⟨us ++ vs, by rw [readJoin_eq, hus, hvs, List.append_assoc]⟩

/-- A JOIN and the last word that was read for it are words of the query in this order. -/
theorem exists_of_mem_joinUses {ws : List Word} {u : JoinUse} (h : u ∈ joinUses ws) :
    u.join.is "join" = true ∧ ∃ us rest, u.join :: us ++ u.last :: rest <:+ ws := by
  fun_induction joinUses ws with
  | case1 => exact absurd h List.not_mem_nil
  | case2 w ws table rest hnext hjoin _ ih =>
    obtain ⟨rfl, -⟩ := next?_eq_some.1 hnext
    obtain ⟨us, hus⟩ := exists_readJoin table rest
    rcases List.mem_cons.1 h with rfl | h
    · exact ⟨hjoin, us, _, by rw [hus]; exact List.suffix_rfl⟩
    · obtain ⟨hu, vs, rest', hsuffix⟩ := ih h
      refine ⟨hu, vs, rest', hsuffix.trans ?_⟩
      rw [hus]
      exact ⟨w :: us ++ [(readJoin table rest).1], by simp⟩
  | case3 w ws table rest _ _ ih =>
    obtain ⟨hu, vs, rest', hsuffix⟩ := ih h
    exact ⟨hu, vs, rest', hsuffix.trans (List.suffix_cons w _)⟩
  | case4 w ws _ ih =>
    obtain ⟨hu, vs, rest', hsuffix⟩ := ih h
    exact ⟨hu, vs, rest', hsuffix.trans (List.suffix_cons w _)⟩

/-! ## Readers of a text -/

theorem after?_eq_some {part cs rest : List Char} :
    after? part cs = some rest ↔ cs = part ++ rest := by
  induction part generalizing cs with
  | nil => simp [after?]
  | cons p ps ih =>
    cases cs with
    | nil => simp [after?]
    | cons c cs =>
      rw [after?, Option.ite_none_right_eq_some, ih, List.cons_append, List.cons.injEq]

theorem afterOr?_eq_some {cs rest : List Char} (h : afterOr? cs = some rest) :
    ∃ word gap, cs = word ++ gap ++ rest ∧ spells "or" word = true ∧ gap ≠ [] ∧
      IsBlankText gap := by
  fun_cases afterOr? cs with
  | case1 o r b cs hor =>
    simp only [Bool.and_eq_true] at hor
    rw [afterOr?, if_pos (by simpa using hor)] at h
    obtain rfl := Option.some.inj h
    refine ⟨[o, r], b :: blankPrefix cs, ?_, hor.1, List.cons_ne_nil _ _, ?_⟩
    · simp [blankPrefix_append_trimStart]
    · exact List.forall_mem_cons.2 ⟨hor.2, isBlankText_blankPrefix cs⟩
  | case2 o r b cs hor =>
    rw [afterOr?, if_neg (by simpa using hor)] at h
    exact absurd h (by simp)
  | case3 => exact absurd h (by simp [afterOr?])

/-- The condition `' OR '1'='1`: white space may stand in front of OR and around the equality
sign, and it must stand behind OR. -/
def IsTautology (part : List Char) : Prop :=
  ∃ front word behind left right,
    part = ['\''] ++ (front ++ word ++ behind ++ ['\'', '1', '\''] ++ left ++ ['='] ++ right) ++
      ['\'', '1'] ∧
    IsBlankText front ∧ spells "or" word = true ∧ behind ≠ [] ∧ IsBlankText behind ∧
      IsBlankText left ∧ IsBlankText right

theorem afterTautology?_eq_some {cs rest : List Char} (h : afterTautology? cs = some rest) :
    ∃ part, cs = part ++ rest ∧ IsTautology part := by
  simp only [afterTautology?, Option.bind_eq_bind, Option.bind_eq_some_iff] at h
  obtain ⟨cs₁, h₁, cs₂, h₂, cs₃, h₃, cs₄, h₄, h₅⟩ := h
  obtain ⟨word, behind, hor, hword, hne, hbehind⟩ := afterOr?_eq_some h₂
  obtain ⟨front, hfront, rfl⟩ := exists_of_trimStart_eq hor
  obtain ⟨left, hleft, rfl⟩ := exists_of_trimStart_eq (after?_eq_some.1 h₄)
  obtain ⟨right, hright, rfl⟩ := exists_of_trimStart_eq (after?_eq_some.1 h₅)
  obtain rfl := after?_eq_some.1 h₁
  obtain rfl := after?_eq_some.1 h₃
  refine ⟨_, ?_, front, word, behind, left, right, rfl, hfront, hword, hne, hbehind, hleft, hright⟩
  simp only [List.append_assoc, List.cons_append, List.nil_append]

end QueryLint.Query
