import QueryLint.Proofs.Text.Likeness
import QueryLint.Proofs.Text.Runs

/-!
# Patterns

A pattern describes parts of a text, and a search finds the first such part.  Where a pattern
leaves a choice, the choices are tried in a fixed order, and the first one behind which all the rest
can be matched is the one that counts: the left side of an alternative first, and a repetition with
as many characters as there can be, or with as few.  So what a pattern means depends on what comes
behind it, and `Pattern.run` is given that as a function.

Most scans for keywords are patterns as well, but what they find is then told by these choices.
The lemmas do away with them: they say which splitting of a text a repetition ends up with.

* `Pattern`, `Pattern.run`: patterns, and how they are matched from a place on.
* `Pattern.find?`, `Pattern.Finds`: the first part that matches, and all that do not overlap.
* `run_many_eq_some`, `run_few_eq_some`, `find?_append`: what is tried in vain can be passed over.
-/

namespace QueryLint.Text

/-- A part of a text, with the text in front of it. -/
structure Part where
  before : List Char
  text : List Char
  deriving DecidableEq, Repr

namespace Part

/-- The part as a name. -/
def name (p : Part) : String := String.ofList p.text

/-- The bytes of the part. -/
def span (p : Part) : Span := .ofParts p.before p.text

end Part

/-- A place in a text, and the parts that have been kept on the way to it. -/
structure Place where
  before : List Char
  rest : List Char
  kept : List Part
  deriving DecidableEq, Repr

namespace Place

/-- The place between the two parts of what is left of the text. -/
def move (x : Place) (split : List Char × List Char) : Place :=
  ⟨x.before ++ split.1, split.2, x.kept⟩

/-- Keeps what stands between two places. -/
def keep (x y : Place) : Place :=
  { y with kept := y.kept ++ [⟨x.before, y.before.drop x.before.length⟩] }

/-- Whether there is a word character on one side only. -/
def isBoundary (x : Place) : Bool :=
  x.before.getLast?.any isWordChar != x.rest.head?.any isWordChar

end Place

/-- A pattern of characters. -/
inductive Pattern where
  /-- A character. -/
  | one (p : Char → Bool)
  /-- Any number of characters, as many as possible. -/
  | many (p : Char → Bool)
  /-- Any number of characters, as few as possible. -/
  | few (p : Char → Bool)
  /-- A place with a word character on one side only. -/
  | boundary
  /-- A text that is this one up to simple case folding. -/
  | keyword (chars : List Char)
  | either (a b : Pattern)
  | both (a b : Pattern)
  /-- What matches is kept. -/
  | group (a : Pattern)

/-- The ways to split a text behind some characters for which `p` holds, the shortest front
first. -/
def splits (p : Char → Bool) : List Char → List (List Char × List Char)
  | [] => [([], [])]
  | c :: cs => ([], c :: cs) :: if p c then (splits p cs).map fun s => (c :: s.1, s.2) else []

namespace Pattern

/-- Matches a pattern from a place on, where `k` goes on behind it. -/
def run : Pattern → (Place → Option Place) → Place → Option Place
  | one p, k, x =>
    match x.rest with
    | c :: cs => if p c then k (x.move ([c], cs)) else none
    | [] => none
  | many p, k, x => (splits p x.rest).reverse.findSome? fun s => k (x.move s)
  | few p, k, x => (splits p x.rest).findSome? fun s => k (x.move s)
  | boundary, k, x => if x.isBoundary then k x else none
  | keyword chars, k, x =>
    if (x.rest.take chars.length).map foldChar = chars then
      k (x.move (x.rest.splitAt chars.length))
    else none
  | either a b, k, x => (a.run k x).or (b.run k x)
  | both a b, k, x => a.run (b.run k) x
  | group a, k, x => a.run (fun y => k (x.keep y)) x

section Cases

variable {p : Char → Bool} {chars : List Char} {a b : Pattern} {k : Place → Option Place}
  {x : Place}

theorem run_many : (many p).run k x = (splits p x.rest).reverse.findSome? fun s => k (x.move s) :=
  rfl

theorem run_few : (few p).run k x = (splits p x.rest).findSome? fun s => k (x.move s) := rfl

theorem run_keyword : (keyword chars).run k x =
    if (x.rest.take chars.length).map foldChar = chars then
      k (x.move (x.rest.splitAt chars.length))
    else none := rfl

theorem run_either : (either a b).run k x = (a.run k x).or (b.run k x) := rfl

theorem run_both : (both a b).run k x = a.run (b.run k) x := rfl

theorem run_group : (group a).run k x = a.run (fun y => k (x.keep y)) x := rfl

end Cases

/-- The end of the first part of a text that matches, if there is one. -/
def find? (a : Pattern) (before rest : List Char) : Option Place :=
  (few fun _ => true).run (a.run some) ⟨before, rest, []⟩

/-- What is kept of the parts of a text that match, where each of them is looked for behind the one
before.  This is for patterns that do not match the empty text. -/
inductive Finds (a : Pattern) : List Char → List Char → List (List Part) → Prop
  | done {before rest : List Char} (h : a.find? before rest = none) : Finds a before rest []
  | next {before rest : List Char} {y : Place} {found : List (List Part)}
      (h : a.find? before rest = some y) (later : Finds a y.before y.rest found) :
      Finds a before rest (y.kept :: found)

/-! ## Repetitions -/

theorem mem_splits {p : Char → Bool} {cs taken rest : List Char} :
    (taken, rest) ∈ splits p cs ↔ cs = taken ++ rest ∧ ∀ c ∈ taken, p c = true := by
  induction cs generalizing taken with
  | nil =>
    rw [splits, List.mem_singleton, Prod.mk.injEq]
    constructor
    · rintro ⟨rfl, rfl⟩
      exact ⟨rfl, List.forall_mem_nil _⟩
    · rintro ⟨hcs, -⟩
      exact List.append_eq_nil_iff.1 hcs.symm
  | cons d ds ih =>
    rw [splits, List.mem_cons, Prod.mk.injEq]
    cases taken with
    | nil =>
      have hlater :
          ([], rest) ∉ if p d then (splits p ds).map fun s => (d :: s.1, s.2) else [] := by
        split
        · intro h
          obtain ⟨s, -, hs⟩ := List.mem_map.1 h
          cases (Prod.mk.inj hs).1
        · exact List.not_mem_nil
      constructor
      · rintro (⟨-, rfl⟩ | h)
        · exact ⟨rfl, List.forall_mem_nil _⟩
        · exact absurd h hlater
      · rintro ⟨h, -⟩
        exact Or.inl ⟨rfl, h.symm⟩
    | cons c cs =>
      by_cases hd : p d = true
      · simp only [if_pos hd, List.mem_map, Prod.exists, Prod.mk.injEq, List.cons.injEq,
          List.forall_mem_cons, List.cons_append]
        constructor
        · rintro (⟨h, -⟩ | ⟨front, back, hmem, ⟨rfl, rfl⟩, rfl⟩)
          · cases h
          · obtain ⟨rfl, hall⟩ := ih.1 hmem
            exact ⟨⟨rfl, rfl⟩, hd, hall⟩
        · rintro ⟨⟨rfl, rfl⟩, -, hall⟩
          exact Or.inr ⟨cs, rest, ih.2 ⟨rfl, hall⟩, ⟨rfl, rfl⟩, rfl⟩
      · rw [if_neg hd]
        simp only [List.not_mem_nil, or_false, reduceCtorEq, false_and, false_iff]
        rintro ⟨hcs, hall⟩
        obtain ⟨rfl, -⟩ := List.cons.inj hcs
        exact hd (hall d List.mem_cons_self)

/-- Longer fronts come later. -/
theorem pairwise_splits (p : Char → Bool) (cs : List Char) :
    (splits p cs).Pairwise fun s t => s.1.length < t.1.length := by
  induction cs with
  | nil => exact List.pairwise_singleton _ _
  | cons c cs ih =>
    rw [splits, List.pairwise_cons]
    split
    · refine ⟨?_, List.pairwise_map.2 (ih.imp fun h => Nat.succ_lt_succ h)⟩
      intro s hs
      obtain ⟨t, -, rfl⟩ := List.mem_map.1 hs
      exact Nat.succ_pos _
    · exact ⟨List.forall_mem_nil _, List.Pairwise.nil⟩

/-- Of several values in order the first one counts for which there is a result. -/
theorem findSome?_eq_some_of_pairwise {α β : Type} {R : α → α → Prop} {xs : List α}
    {f : α → Option β} {a : α} {b : β} (hxs : xs.Pairwise R) (ha : a ∈ xs) (hb : f a = some b)
    (hnone : ∀ x ∈ xs, R x a → f x = none) : xs.findSome? f = some b := by
  obtain ⟨front, back, rfl⟩ := List.append_of_mem ha
  rw [List.findSome?_eq_some_iff]
  refine ⟨front, a, back, rfl, hb, fun x hx => hnone x (List.mem_append_left _ hx) ?_⟩
  exact (List.pairwise_append.1 hxs).2.2 x hx a List.mem_cons_self

section Run

variable {p : Char → Bool} {k : Place → Option Place} {before taken rest : List Char}
  {kept : List Part} {y : Place}

/-- A repetition ends where something can follow, if nothing can after more characters. -/
theorem run_many_eq_some (htaken : ∀ c ∈ taken, p c = true)
    (h : k ⟨before ++ taken, rest, kept⟩ = some y)
    (hnone : ∀ taken' rest', taken ++ rest = taken' ++ rest' → (∀ c ∈ taken', p c = true) →
      taken.length < taken'.length → k ⟨before ++ taken', rest', kept⟩ = none) :
    (many p).run k ⟨before, taken ++ rest, kept⟩ = some y := by
  have hpairwise := List.pairwise_reverse.2 (pairwise_splits p (taken ++ rest))
  refine findSome?_eq_some_of_pairwise hpairwise
    (List.mem_reverse.2 (mem_splits.2 ⟨rfl, htaken⟩)) h fun s hs hlength => ?_
  obtain ⟨heq, hall⟩ := mem_splits.1 (List.mem_reverse.1 hs)
  exact hnone s.1 s.2 heq hall hlength

/-- A repetition ends where something can follow, if nothing can after fewer characters. -/
theorem run_few_eq_some (htaken : ∀ c ∈ taken, p c = true)
    (h : k ⟨before ++ taken, rest, kept⟩ = some y)
    (hnone : ∀ taken' rest', taken ++ rest = taken' ++ rest' → taken'.length < taken.length →
      k ⟨before ++ taken', rest', kept⟩ = none) :
    (few p).run k ⟨before, taken ++ rest, kept⟩ = some y := by
  refine findSome?_eq_some_of_pairwise (pairwise_splits p (taken ++ rest))
    (mem_splits.2 ⟨rfl, htaken⟩) h fun s hs hlength => ?_
  obtain ⟨heq, -⟩ := mem_splits.1 hs
  exact hnone s.1 s.2 heq hlength

theorem exists_of_run_many (h : (many p).run k ⟨before, rest, kept⟩ = some y) :
    ∃ taken rest', rest = taken ++ rest' ∧ (∀ c ∈ taken, p c = true) ∧
      k ⟨before ++ taken, rest', kept⟩ = some y := by
  obtain ⟨s, hs, hk⟩ := List.exists_of_findSome?_eq_some h
  obtain ⟨heq, hall⟩ := mem_splits.1 (List.mem_reverse.1 hs)
  exact ⟨s.1, s.2, heq, hall, hk⟩

theorem exists_of_run_few (h : (few p).run k ⟨before, rest, kept⟩ = some y) :
    ∃ taken rest', rest = taken ++ rest' ∧ (∀ c ∈ taken, p c = true) ∧
      k ⟨before ++ taken, rest', kept⟩ = some y := by
  obtain ⟨s, hs, hk⟩ := List.exists_of_findSome?_eq_some h
  obtain ⟨heq, hall⟩ := mem_splits.1 hs
  exact ⟨s.1, s.2, heq, hall, hk⟩

theorem run_one_cons {c : Char} {cs : List Char} (hc : p c = true) :
    (one p).run k ⟨before, c :: cs, kept⟩ = k ⟨before ++ [c], cs, kept⟩ := if_pos hc

theorem exists_of_run_one (h : (one p).run k ⟨before, rest, kept⟩ = some y) :
    ∃ c cs, rest = c :: cs ∧ p c = true ∧ k ⟨before ++ [c], cs, kept⟩ = some y := by
  cases rest with
  | nil => cases h
  | cons c cs =>
    obtain ⟨hc, hk⟩ := Option.ite_none_right_eq_some.1 h
    exact ⟨c, cs, rfl, hc, hk⟩

/-- At least one character for which `p` holds, and as many as possible. -/
def several (p : Char → Bool) : Pattern := both (one p) (many p)

theorem run_several_eq_some (hne : taken ≠ []) (htaken : ∀ c ∈ taken, p c = true)
    (h : k ⟨before ++ taken, rest, kept⟩ = some y)
    (hnone : ∀ taken' rest', taken ++ rest = taken' ++ rest' → (∀ c ∈ taken', p c = true) →
      taken.length < taken'.length → k ⟨before ++ taken', rest', kept⟩ = none) :
    (several p).run k ⟨before, taken ++ rest, kept⟩ = some y := by
  obtain ⟨c, cs, rfl⟩ := List.exists_cons_of_ne_nil hne
  obtain ⟨hc, hcs⟩ := List.forall_mem_cons.1 htaken
  rw [several, run_both, List.cons_append, run_one_cons hc]
  refine run_many_eq_some hcs (by rwa [← List.append_cons]) fun taken' rest' heq hall hlength => ?_
  rw [← List.append_cons]
  exact hnone (c :: taken') rest' (congrArg (c :: ·) heq) (List.forall_mem_cons.2 ⟨hc, hall⟩)
    (Nat.succ_lt_succ hlength)

/-- Where there is nothing more to take, not more can be taken. -/
theorem length_le_of_head? {taken' rest' : List Char} (hrest : ∀ c ∈ rest.head?, p c = false)
    (heq : taken ++ rest = taken' ++ rest') (hall : ∀ c ∈ taken', p c = true) :
    taken'.length ≤ taken.length := by
  rcases List.append_eq_append_iff.1 heq with ⟨part, rfl, hpart⟩ | ⟨part, rfl, -⟩
  · cases part with
    | nil => rw [List.append_nil]
    | cons c cs =>
      -- the first character of `rest` would be among those that are taken
      have hc := hrest c (by rw [hpart]; rfl)
      rw [hall c (by simp)] at hc
      cases hc
  · rw [List.length_append]
    exact Nat.le_add_right _ _

/-- A repetition ends where there is nothing more to take, if something can follow there. -/
theorem run_several_of_head? (hne : taken ≠ []) (htaken : ∀ c ∈ taken, p c = true)
    (hrest : ∀ c ∈ rest.head?, p c = false) (h : k ⟨before ++ taken, rest, kept⟩ = some y) :
    (several p).run k ⟨before, taken ++ rest, kept⟩ = some y :=
  run_several_eq_some hne htaken h fun _ _ heq hall hlength =>
    absurd hlength (Nat.not_lt.2 (length_le_of_head? hrest heq hall))

/-- The same if there need not be anything to take. -/
theorem run_many_of_head? (htaken : ∀ c ∈ taken, p c = true)
    (hrest : ∀ c ∈ rest.head?, p c = false) (h : k ⟨before ++ taken, rest, kept⟩ = some y) :
    (many p).run k ⟨before, taken ++ rest, kept⟩ = some y :=
  run_many_eq_some htaken h fun _ _ heq hall hlength =>
    absurd hlength (Nat.not_lt.2 (length_le_of_head? hrest heq hall))

/-- If some number of characters leads to a match, there is a match. -/
theorem isSome_run_many (htaken : ∀ c ∈ taken, p c = true)
    (h : (k ⟨before ++ taken, rest, kept⟩).isSome = true) :
    ((many p).run k ⟨before, taken ++ rest, kept⟩).isSome = true := by
  rw [run_many, List.findSome?_isSome_iff]
  exact ⟨(taken, rest), List.mem_reverse.2 (mem_splits.2 ⟨rfl, htaken⟩), h⟩

theorem exists_of_run_several (h : (several p).run k ⟨before, rest, kept⟩ = some y) :
    ∃ taken rest', rest = taken ++ rest' ∧ taken ≠ [] ∧ (∀ c ∈ taken, p c = true) ∧
      k ⟨before ++ taken, rest', kept⟩ = some y := by
  rw [several, run_both] at h
  obtain ⟨c, cs, rfl, hc, h⟩ := exists_of_run_one h
  obtain ⟨taken, rest', rfl, htaken, h⟩ := exists_of_run_many h
  rw [← List.append_cons] at h
  exact ⟨c :: taken, rest', rfl, List.cons_ne_nil _ _, List.forall_mem_cons.2 ⟨hc, htaken⟩, h⟩

/-! ## Boundaries and keywords -/

theorem run_boundary_eq_some {x : Place} :
    boundary.run k x = some y ↔ x.isBoundary = true ∧ k x = some y :=
  Option.ite_none_right_eq_some

/-- In front of a word there is a boundary unless a word character stands there. -/
theorem isBoundary_front {word : List Char} (hword : IsWordText word) :
    Place.isBoundary ⟨before, word ++ rest, kept⟩ = true ↔
      ∀ c ∈ before.getLast?, isWordChar c = false := by
  obtain ⟨c, cs, rfl⟩ := List.exists_cons_of_ne_nil hword.ne_nil
  have hc : isWordChar c = true := hword.isWordChar c List.mem_cons_self
  rw [Place.isBoundary]
  cases before.getLast? <;> simp [hc]

/-- Behind a word there is a boundary unless a word character stands there. -/
theorem isBoundary_back {word : List Char} (hword : IsWordText word) :
    Place.isBoundary ⟨before ++ word, rest, kept⟩ = true ↔
      ∀ c ∈ rest.head?, isWordChar c = false := by
  have hlast : (before ++ word).getLast? = some (word.getLast hword.ne_nil) := by
    rw [List.getLast?_append_of_ne_nil _ hword.ne_nil, List.getLast?_eq_some_getLast]
  have hchar := hword.isWordChar _ (List.getLast_mem hword.ne_nil)
  rw [Place.isBoundary, hlast]
  cases rest.head? <;> simp [hchar]

/-- Simple case folding makes no word characters. -/
theorem isWordText_of_map_foldChar {word chars : List Char} (h : word.map foldChar = chars)
    (hchars : IsWordText chars) : IsWordText word := by
  subst h
  refine ⟨fun hnil => hchars.ne_nil (by rw [hnil]; rfl), fun c hc => ?_⟩
  rw [← isWordChar_foldChar]
  exact hchars.isWordChar _ (List.mem_map_of_mem hc)

/-- The words around tables and lists. -/
theorem isWordText_keyword {s : String} (hs : s ∈ ["select", "from", "join"]) :
    IsWordText s.toList := by
  simp only [List.mem_cons, List.not_mem_nil, or_false] at hs
  rcases hs with rfl | rfl | rfl
  all_goals exact ⟨by decide, List.all_eq_true.1 (by decide)⟩

theorem run_keyword_append {word chars : List Char} (h : word.map foldChar = chars) :
    (keyword chars).run k ⟨before, word ++ rest, kept⟩ = k ⟨before ++ word, rest, kept⟩ := by
  have hlength : chars.length = word.length := by rw [← h, List.length_map]
  rw [run_keyword, hlength]
  show (if ((word ++ rest).take word.length).map foldChar = chars then _ else none) = _
  rw [List.take_left, if_pos h, List.splitAt_eq, List.take_left, List.drop_left]
  rfl

theorem run_keyword_eq_none {word chars : List Char} (hlength : word.length = chars.length)
    (h : word.map foldChar ≠ chars) :
    (keyword chars).run k ⟨before, word ++ rest, kept⟩ = none := by
  rw [run_keyword]
  show (if ((word ++ rest).take chars.length).map foldChar = chars then _ else none) = _
  rw [← hlength, List.take_left, if_neg h]

theorem exists_of_run_keyword {chars : List Char}
    (h : (keyword chars).run k ⟨before, rest, kept⟩ = some y) :
    ∃ word rest', rest = word ++ rest' ∧ word.map foldChar = chars ∧
      k ⟨before ++ word, rest', kept⟩ = some y := by
  rw [run_keyword, Option.ite_none_right_eq_some] at h
  obtain ⟨hword, hk⟩ := h
  refine ⟨_, _, (List.take_append_drop chars.length rest).symm, hword, ?_⟩
  rwa [List.splitAt_eq] at hk

/-! ## Searches -/

theorem find?_cons (a : Pattern) (before : List Char) (c : Char) (cs : List Char) :
    a.find? before (c :: cs) =
      (a.run some ⟨before, c :: cs, []⟩).or (a.find? (before ++ [c]) cs) := by
  have hmove (s : List Char × List Char) :
      Place.move ⟨before, c :: cs, []⟩ (c :: s.1, s.2) =
        Place.move ⟨before ++ [c], cs, []⟩ s := by
    rw [Place.move, Place.move, ← List.append_cons]
  have hhere : Place.move ⟨before, c :: cs, []⟩ ([], c :: cs) = ⟨before, c :: cs, []⟩ := by
    rw [Place.move, List.append_nil]
  rw [find?, find?, run_few, run_few, splits, if_pos rfl, List.findSome?_cons,
    List.findSome?_map, hhere]
  simp only [Function.comp_def, hmove]
  cases a.run some ⟨before, c :: cs, []⟩ <;> rfl

/-- What does not match is passed over. -/
theorem find?_append {a : Pattern} {front : List Char}
    (h : ∀ front' rest', front ++ rest = front' ++ rest' → front'.length < front.length →
      a.run some ⟨before ++ front', rest', []⟩ = none) :
    a.find? before (front ++ rest) = a.find? (before ++ front) rest := by
  induction front generalizing before with
  | nil => rw [List.nil_append, List.append_nil]
  | cons c cs ih =>
    have hhere : a.run some ⟨before, c :: cs ++ rest, []⟩ = none := by
      have hfirst := h [] _ rfl (Nat.succ_pos _)
      rwa [List.append_nil] at hfirst
    rw [List.cons_append] at hhere ⊢
    rw [find?_cons, hhere, Option.none_or, List.append_cons before c cs]
    refine ih fun front' rest' heq hlength => ?_
    rw [← List.append_cons]
    exact h (c :: front') rest' (congrArg (c :: ·) heq) (Nat.succ_lt_succ hlength)

theorem find?_of_run {a : Pattern} (h : a.run some ⟨before, rest, []⟩ = some y) :
    a.find? before rest = some y := by
  refine run_few_eq_some (List.forall_mem_nil _) (by rwa [List.append_nil]) ?_
  exact fun _ _ _ hlength => absurd hlength (Nat.not_lt_zero _)

/-- What matches somewhere is found. -/
theorem isSome_find? {a : Pattern} (h : (a.run some ⟨before ++ taken, rest, []⟩).isSome = true) :
    (a.find? before (taken ++ rest)).isSome = true := by
  rw [find?, run_few, List.findSome?_isSome_iff]
  exact ⟨(taken, rest), mem_splits.2 ⟨rfl, fun _ _ => rfl⟩, h⟩

theorem find?_eq_none {a : Pattern}
    (h : ∀ front rest', rest = front ++ rest' → a.run some ⟨before ++ front, rest', []⟩ = none) :
    a.find? before rest = none := by
  rw [Option.eq_none_iff_forall_ne_some]
  intro y hy
  obtain ⟨front, rest', rfl, -, hrun⟩ := exists_of_run_few hy
  rw [h front rest' rfl] at hrun
  cases hrun

end Run

/-- A search goes on from wherever it finds the same. -/
theorem Finds.of_find?_eq {a : Pattern} {before before' rest rest' : List Char}
    {found : List (List Part)} (h : a.Finds before' rest' found)
    (heq : a.find? before rest = a.find? before' rest') : a.Finds before rest found := by
  cases h with
  | done h => exact .done (heq.trans h)
  | next h later => exact .next (heq.trans h) later

/-- A search has one outcome. -/
theorem Finds.unique {a : Pattern} {before rest : List Char} {found found' : List (List Part)}
    (h : a.Finds before rest found) (h' : a.Finds before rest found') : found = found' := by
  induction h generalizing found' with
  | done h =>
    cases h' with
    | done => rfl
    | next hnext => cases h.symm.trans hnext
  | next h _ ih =>
    cases h' with
    | done hdone => cases h.symm.trans hdone
    | next hnext later =>
      obtain rfl := Option.some.inj (h.symm.trans hnext)
      rw [ih later]

end Pattern

end QueryLint.Text
