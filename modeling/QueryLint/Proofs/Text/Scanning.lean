import QueryLint.Proofs.Text.Patterns

/-!
# Scans

A scan goes through a text from word to word.  At a word it either takes something, which begins
with this word and can reach far behind it, or it passes over the word; then it goes on behind
what it has taken or passed over.  `Scan` tells this about the text itself, for anything that can
be taken.  So what is taken is never looked at again, and it is left open only what can be taken
where.

The same is found by a pattern that matches where something can be taken (`Pattern.Reads`).  Such
a pattern can match at the start of a word, or farther in if it also matches at the start; and so
what it finds first is what the scan takes first.

A check that goes over the words of a text follows a scan as well.  `Word.Follow` is the situation
in between: of the text some has been read, and behind a gap the other words follow.

* `Scan`: what is taken from a text.
* `Pattern.Reads.finds`, `Pattern.Reads.unique`: a pattern finds what a scan takes, and the scan
  has one outcome.
* `Word.Follow`: the words that follow; `Word.follow_wordsOf` is the start, `Word.Follow.next` the
  step, and `scan_nil`, `scan_pass` and `scan_take` are what a scan does with them.
* `Pattern.find?_of_isFirstRun`, `firstWord?_spec`: the first word with a property, as it is found
  by a pattern and among the words; `any_wordsOf_iff`: whether there is one.
-/

namespace QueryLint.Text

/-! ## What a scan takes -/

/-- What can be taken from a text: `Takes before taken after a` says that behind `before` and in
front of `after` it is `taken`, and that this counts as `a`. -/
abbrev Taking (α : Type) : Type := List Char → List Char → List Char → α → Prop

/-- At the word that begins what stands behind `before`, something can be taken. -/
def Taking.CanTake {α : Type} (Takes : Taking α) (before rest : List Char) : Prop :=
  ∃ taken after a, rest = taken ++ after ∧ Takes before taken after a

/-- What is taken from a text, which stands behind `before`: the words are gone through from the
left, and the scan goes on behind what has been taken. -/
inductive Scan {α : Type} (Takes : Taking α) : List Char → List Char → List α → Prop
  /-- There is no word left. -/
  | done {before rest : List Char} (h : IsGap rest) : Scan Takes before rest []
  /-- At the next word nothing can be taken. -/
  | pass {before gap word after : List Char} {found : List α} (hgap : IsGap gap)
      (hword : IsRun (before ++ gap) word after)
      (h : ¬Takes.CanTake (before ++ gap) (word ++ after))
      (later : Scan Takes (before ++ gap ++ word) after found) :
      Scan Takes before (gap ++ (word ++ after)) found
  /-- At the next word something is taken. -/
  | take {before gap taken after : List Char} {a : α} {found : List α} (hgap : IsGap gap)
      (h : Takes (before ++ gap) taken after a)
      (later : Scan Takes (before ++ gap ++ taken) after found) :
      Scan Takes before (gap ++ (taken ++ after)) (a :: found)

section Outcome

variable {α : Type} {Takes : Taking α} {before rest : List Char} {a : α} {found : List α}

/-- What comes first is taken somewhere. -/
theorem Scan.exists_of_cons (h : Scan Takes before rest (a :: found)) :
    ∃ front taken after, rest = front ++ (taken ++ after) ∧
      Takes (before ++ front) taken after a := by
  generalize hall : a :: found = all at h
  induction h with
  | done => cases hall
  | @pass before gap word after _ _ _ _ _ ih =>
    obtain ⟨front, taken, after', rfl, htake⟩ := ih hall
    refine ⟨gap ++ (word ++ front), taken, after', by simp only [List.append_assoc], ?_⟩
    simpa only [List.append_assoc] using htake
  | @take before gap taken after _ _ _ htake _ _ =>
    obtain ⟨rfl, -⟩ := List.cons.inj hall
    exact ⟨gap, taken, after, rfl, htake⟩

/-- If nothing is taken, there is no word at which something can be taken. -/
theorem Scan.not_canTake_of_nil (h : Scan Takes before rest [])
    {front word after : List Char} (heq : rest = front ++ (word ++ after))
    (hword : IsRun front word after) : ¬Takes.CanTake (before ++ front) (word ++ after) := by
  generalize hall : ([] : List α) = all at h
  induction h generalizing front with
  | done hgap => exact absurd heq (hgap.ne_append hword.isWordText)
  | @pass before gap word' after' _ hgap hword' hnot _ ih =>
    rcases IsRun.cases hgap hword'.of_append hword heq with ⟨rfl, rfl, rfl⟩ | ⟨mid, rfl, hmid, hrun⟩
    · exact hnot
    · have hlater := ih hmid hrun hall
      simpa only [List.append_assoc] using hlater
  | take => cases hall

end Outcome

/-! ## Patterns -/

namespace Pattern

variable {α : Type} {p : Pattern} {Takes : Taking α} {parts : α → List Part}
variable {before gap word front after rest : List Char} {y : Place}

/-- The pattern matches what can be taken, and keeps these parts of it. -/
structure Reads (p : Pattern) (Takes : Taking α) (parts : α → List Part) : Prop where
  run_eq : ∀ {before taken after a}, Takes before taken after a →
    p.run some ⟨before, taken ++ after, []⟩ = some ⟨before ++ taken, after, parts a⟩
  /-- It matches at word characters only. -/
  head : ∀ {before rest y}, p.run some ⟨before, rest, []⟩ = some y →
    ∃ c ∈ rest.head?, isWordChar c = true
  /-- If it matches within a word, something can be taken at the start of the word. -/
  canTake : ∀ {before front back after y}, IsRun before (front ++ back) after → back ≠ [] →
    p.run some ⟨before ++ front, back ++ after, []⟩ = some y →
      Takes.CanTake before (front ++ (back ++ after))

/-- The pattern matches only at the start of words. -/
theorem reads_of_run
    (hrun : ∀ {before taken after a}, Takes before taken after a →
      p.run some ⟨before, taken ++ after, []⟩ = some ⟨before ++ taken, after, parts a⟩)
    (htake : ∀ {before rest y}, p.run some ⟨before, rest, []⟩ = some y →
      (∃ word after, rest = word ++ after ∧ IsRun before word after) ∧
        Takes.CanTake before rest) : p.Reads Takes parts where
  run_eq := hrun
  head h := by
    obtain ⟨⟨word, after, rfl, hword⟩, -⟩ := htake h
    obtain ⟨c, cs, rfl⟩ := List.exists_cons_of_ne_nil hword.isWordText.ne_nil
    exact ⟨c, rfl, hword.isWordText.isWordChar c List.mem_cons_self⟩
  canTake {before front back after y} hword hback h := by
    obtain ⟨⟨word', after', -, hword'⟩, htake⟩ := htake h
    rcases List.eq_nil_or_concat' front with rfl | ⟨cs, c, rfl⟩
    · rw [List.append_nil] at htake
      exact htake
    · -- a word character stands in front of the place
      have hc := hword'.before c (by simp)
      rw [hword.isWordText.isWordChar c (by simp)] at hc
      cases hc

namespace Reads

theorem run_eq_none_of_gap (h : p.Reads Takes parts) (hgap : IsGap gap)
    (heq : gap ++ after = front ++ rest) (hlength : front.length < gap.length) :
    p.run some ⟨before ++ front, rest, []⟩ = none := by
  rw [Option.eq_none_iff_forall_ne_some]
  intro y hy
  obtain ⟨c, hc, hchar⟩ := h.head hy
  rcases List.append_eq_append_iff.1 heq with ⟨part, rfl, -⟩ | ⟨part, rfl, rfl⟩
  · rw [List.length_append] at hlength
    omega
  · have hpart : part ≠ [] := by
      rintro rfl
      rw [List.append_nil] at hlength
      exact absurd hlength (Nat.lt_irrefl _)
    rw [List.head?_append_of_ne_nil _ hpart] at hc
    rw [hgap c (List.mem_append_right _ (List.mem_of_mem_head? hc))] at hchar
    cases hchar

/-- The pattern does not match before the end of a word at which nothing can be taken. -/
theorem run_eq_none_of_word (h : p.Reads Takes parts) (hgap : IsGap gap)
    (hword : IsRun (before ++ gap) word after)
    (hnot : ¬Takes.CanTake (before ++ gap) (word ++ after))
    (heq : gap ++ word ++ after = front ++ rest) (hlength : front.length < (gap ++ word).length) :
    p.run some ⟨before ++ front, rest, []⟩ = none := by
  rcases Nat.lt_or_ge front.length gap.length with hlt | hle
  · rw [List.append_assoc] at heq
    exact h.run_eq_none_of_gap hgap heq hlt
  · rw [Option.eq_none_iff_forall_ne_some]
    intro y hy
    obtain ⟨part, rfl⟩ : gap <+: front :=
      List.prefix_of_prefix_length_le ⟨word ++ after, by rw [← heq, List.append_assoc]⟩
        (List.prefix_append front rest) hle
    rw [List.append_assoc, List.append_assoc, List.append_cancel_left_eq] at heq
    obtain ⟨back, rfl⟩ : part <+: word := by
      refine List.prefix_of_prefix_length_le ⟨rest, heq.symm⟩ (List.prefix_append word after) ?_
      simp only [List.length_append] at hlength
      omega
    have hback : back ≠ [] := by
      rintro rfl
      simp at hlength
    rw [List.append_assoc, List.append_cancel_left_eq] at heq
    subst heq
    rw [← List.append_assoc] at hy
    refine hnot ?_
    rw [List.append_assoc]
    exact h.canTake hword hback hy

/-- A pattern finds what a scan takes. -/
theorem finds (h : p.Reads Takes parts) {found : List α} (hscan : Scan Takes before rest found) :
    p.Finds before rest (found.map parts) := by
  induction hscan with
  | done hgap =>
    refine .done (find?_eq_none fun front rest' hsplit => ?_)
    rw [Option.eq_none_iff_forall_ne_some]
    intro y hy
    obtain ⟨c, hc, hchar⟩ := h.head hy
    rw [hgap c (by rw [hsplit]; exact List.mem_append_right _ (List.mem_of_mem_head? hc))] at hchar
    cases hchar
  | @pass before gap word after found hgap hword hnot _ ih =>
    have hskip : p.find? before (gap ++ word ++ after) =
        p.find? (before ++ (gap ++ word)) after :=
      find?_append fun _ _ heq hlength => h.run_eq_none_of_word hgap hword hnot heq hlength
    rw [List.append_assoc, ← List.append_assoc before] at hskip
    exact ih.of_find?_eq hskip
  | @take before gap taken after a found hgap htake _ ih =>
    have hskip : p.find? before (gap ++ (taken ++ after)) =
        p.find? (before ++ gap) (taken ++ after) :=
      find?_append fun _ _ heq hlength => h.run_eq_none_of_gap hgap heq hlength
    have hfind := find?_of_run (h.run_eq htake)
    rw [← hskip] at hfind
    exact .next hfind ih

/-- A scan has one outcome. -/
theorem unique (h : p.Reads Takes parts) (hparts : Function.Injective parts) {found found' : List α}
    (hscan : Scan Takes before rest found) (hscan' : Scan Takes before rest found') :
    found = found' :=
  List.map_injective_iff.2 hparts ((h.finds hscan).unique (h.finds hscan'))

/-- What a scan takes is all that it can take, and all that the pattern finds. -/
theorem scan_iff_and_finds_iff (h : p.Reads Takes parts) (hparts : Function.Injective parts)
    {found : List α} (hscan : Scan Takes before rest found) :
    (∀ found', Scan Takes before rest found' ↔ found' = found) ∧
      ∀ parts', p.Finds before rest parts' ↔ parts' = found.map parts := by
  have hfinds := h.finds hscan
  exact ⟨fun found' => ⟨fun h' => h.unique hparts h' hscan, fun h' => h' ▸ hscan⟩,
    fun parts' => ⟨fun h' => h'.unique hfinds, fun h' => h' ▸ hfinds⟩⟩

end Reads

/-! ## The first match -/

section First

variable {Q : List Char → List Char → List Char → Prop} {cs : List Char}
  (hrun : ∀ {before rest y}, p.run some ⟨before, rest, []⟩ = some y →
    ∃ word after, rest = word ++ after ∧ IsRun before word after ∧ Q before word after)

include hrun

/-- A pattern that matches only at words with a property is found at the first of them, if it
matches there. -/
theorem find?_of_isFirstRun (h : IsFirstRun Q cs front word after)
    (hy : p.run some ⟨front, word ++ after, []⟩ = some y) : p.find? [] cs = some y := by
  obtain ⟨rfl, hword, -, hfirst⟩ := h
  have hskip : p.find? [] (front ++ (word ++ after)) = p.find? ([] ++ front) (word ++ after) := by
    refine find?_append fun front' rest' heq hlength => ?_
    rw [Option.eq_none_iff_forall_ne_some]
    intro z hz
    obtain ⟨word', after', rfl, hword', hQ⟩ := hrun hz
    have hle := hfirst front' word' after' heq hword' hQ
    omega
  rw [hskip]
  exact find?_of_run hy

/-- It is not found if no word has the property. -/
theorem find?_of_hasNoRun (h : HasNoRun Q cs) : p.find? [] cs = none := by
  refine find?_eq_none fun front rest' heq => ?_
  rw [Option.eq_none_iff_forall_ne_some]
  intro z hz
  obtain ⟨word', after', rfl, hword', hQ⟩ := hrun hz
  exact h front word' after' heq hword' hQ

/-- A pattern that matches at all words with the property, and nowhere else, tells whether there is
one. -/
theorem isSome_find?_iff
    (hmatch : ∀ {front word after}, IsRun front word after → Q front word after →
      (p.run some ⟨front, word ++ after, []⟩).isSome = true) :
    (p.find? [] cs).isSome = true ↔ ¬HasNoRun Q cs := by
  constructor
  · intro h hnone
    rw [find?_of_hasNoRun hrun hnone] at h
    cases h
  · intro h
    obtain ⟨front, word, after, hfirst⟩ := exists_isFirstRun h
    rw [hfirst.eq_append]
    exact isSome_find? (hmatch hfirst.isRun hfirst.holds)

end First

end Pattern

/-! ## Words that follow -/

/-- Behind `before` there is a gap, and then the words `ws` follow. -/
structure Word.Follow (before gap : List Char) (ws : List Word) : Prop where
  isGap : IsGap gap
  laid : Laid (byteSize (before ++ gap)) ws
  apart : ws ≠ [] → ∀ c ∈ (before ++ gap).getLast?, isWordChar c = false

namespace Word

variable {before gap : List Char} {w : Word} {ws : List Word}

/-- At the start all words follow. -/
theorem follow_wordsOf (cs : List Char) : Follow [] (Reading.ofChars 0 cs).lead (wordsOf cs) where
  isGap := (Reading.laid_ofChars 0 cs).lead
  laid := (remain_wordsOf cs).laid
  apart _ := (Reading.laid_ofChars 0 cs).lead.getLast?

namespace Follow

/-- The next word is a run. -/
theorem isRun (h : Follow before gap (w :: ws)) :
    IsRun (before ++ gap) w.text (w.after ++ textOf ws) where
  isWordText := h.laid.isWordText_of_mem List.mem_cons_self
  before := h.apart (List.cons_ne_nil _ _)
  after := (h.laid.isRun h.isGap).after

theorem start_eq (h : Follow before gap (w :: ws)) : w.start = byteSize (before ++ gap) := by
  cases h.laid with
  | cons start => exact start

/-- The next word has been read. -/
theorem next (h : Follow before gap (w :: ws)) :
    Follow (before ++ gap ++ w.text) w.after ws where
  isGap := h.laid.behind.1
  laid := h.laid.behind.2
  apart hne := by
    cases h.laid with
    | cons _ _ hafter apart _ =>
      rw [List.getLast?_append_of_ne_nil _ (apart hne)]
      exact hafter.getLast?

/-- Some of the gap has been read. -/
theorem move {front back : List Char} (h : Follow before (front ++ back) ws) :
    Follow (before ++ front) back ws where
  isGap c hc := h.isGap c (List.mem_append_right _ hc)
  laid := by
    rw [List.append_assoc]
    exact h.laid
  apart := by
    rw [List.append_assoc]
    exact h.apart

/-- A word behind nothing but characters of no word is the next word. -/
theorem exists_of_append_eq {front word after : List Char} (h : Follow before gap ws)
    (hfront : IsGap front) (hword : IsRun (before ++ front) word after)
    (heq : gap ++ textOf ws = front ++ (word ++ after)) :
    ∃ v vs, ws = v :: vs ∧ front = gap ∧ word = v.text ∧ after = v.after ++ textOf vs := by
  cases ws with
  | nil =>
    rw [textOf_nil, List.append_nil] at heq
    exact absurd heq (h.isGap.ne_append hword.isWordText)
  | cons v vs =>
    rw [textOf_cons, List.append_assoc] at heq
    exact ⟨v, vs, rfl, IsRun.unique h.isGap hfront h.isRun.of_append hword.of_append heq⟩

/-- What is in no word and stands in front of everything stands in the gap. -/
theorem exists_of_isGap {front rest : List Char} (h : Follow before gap ws) (hfront : IsGap front)
    (heq : gap ++ textOf ws = front ++ rest) :
    ∃ back, gap = front ++ back ∧ rest = back ++ textOf ws := by
  rcases List.append_eq_append_iff.1 heq with ⟨part, rfl, hpart⟩ | ⟨back, hgap, hrest⟩
  · cases part with
    | nil => exact ⟨[], by rw [List.append_nil, List.append_nil], hpart.symm⟩
    | cons c cs =>
      cases ws with
      | nil => cases hpart
      | cons v vs =>
        -- the next word would begin with a character of no word
        have hword := h.laid.isWordText_of_mem List.mem_cons_self
        obtain ⟨d, ds, htext⟩ := List.exists_cons_of_ne_nil hword.ne_nil
        have hchar := hword.isWordChar d (by rw [htext]; exact List.mem_cons_self)
        rw [textOf_cons, htext, List.cons_append, List.cons_append, List.cons_append] at hpart
        obtain ⟨rfl, -⟩ := List.cons.inj hpart
        rw [hfront d (by simp)] at hchar
        cases hchar
  · exact ⟨back, hgap, hrest⟩

/-! ### Steps of a scan -/

variable {α : Type} {Takes : Taking α} {a : α} {found : List α} {taken after : List Char}

theorem scan_nil (h : Follow before gap []) : Scan Takes before (gap ++ textOf []) [] :=
  .done (by rw [textOf_nil, List.append_nil]; exact h.isGap)

theorem scan_pass (h : Follow before gap (w :: ws))
    (hnot : ¬Takes.CanTake (before ++ gap) (w.text ++ (w.after ++ textOf ws)))
    (hscan : Scan Takes (before ++ gap ++ w.text) (w.after ++ textOf ws) found) :
    Scan Takes before (gap ++ textOf (w :: ws)) found := by
  rw [textOf_cons, List.append_assoc]
  exact .pass h.isGap h.isRun hnot hscan

theorem scan_take (h : Follow before gap (w :: ws))
    (heq : w.text ++ (w.after ++ textOf ws) = taken ++ after)
    (htake : Takes (before ++ gap) taken after a)
    (hscan : Scan Takes (before ++ gap ++ taken) after found) :
    Scan Takes before (gap ++ textOf (w :: ws)) (a :: found) := by
  rw [textOf_cons, List.append_assoc, heq]
  exact .take h.isGap htake hscan

end Follow

end Word

/-! ## The first word with a property -/

/-- The first word for which a test is true, and the words after it. -/
def firstWord? (test : Word → List Word → Bool) : List Word → Option (Word × List Word)
  | [] => none
  | w :: ws => if test w ws then some (w, ws) else firstWord? test ws

/-- The test is true for the word that it leads to. -/
theorem firstWord?_eq_some {test : Word → List Word → Bool} {w : Word} {ws vs : List Word}
    (h : firstWord? test ws = some (w, vs)) : test w vs = true := by
  induction ws with
  | nil => cases h
  | cons v ws ih =>
    rw [firstWord?] at h
    by_cases hv : test v ws = true
    · rw [if_pos hv] at h
      obtain ⟨rfl, rfl⟩ := Prod.mk.inj (Option.some.inj h)
      exact hv
    · rw [if_neg hv] at h
      exact ih h

section FirstWord

variable {Q : List Char → List Char → Prop} {test : Word → List Word → Bool}
  (hQ : ∀ {before gap w ws}, Word.Follow before gap (w :: ws) →
    (Q w.text (w.after ++ Word.textOf ws) ↔ test w ws = true))

include hQ

/-- A test that tells which words have a property leads to the first run that has it. -/
theorem firstWord?_spec {before gap : List Char} {ws : List Word} (h : Word.Follow before gap ws) :
    match firstWord? test ws with
    | some (w, vs) => ∃ front gap', IsFirstRun (fun _ => Q) (gap ++ Word.textOf ws)
        (front ++ gap') w.text (w.after ++ Word.textOf vs) ∧
          Word.Follow (before ++ front) gap' (w :: vs)
    | none => HasNoRun (fun _ => Q) (gap ++ Word.textOf ws) := by
  induction ws generalizing before gap with
  | nil =>
    rw [firstWord?, Word.textOf_nil, List.append_nil]
    exact hasNoRun_of_isGap h.isGap
  | cons w ws ih =>
    have hrun : IsRun gap w.text (w.after ++ Word.textOf ws) := h.isRun.of_append
    rw [firstWord?, Word.textOf_cons, List.append_assoc]
    by_cases hw : test w ws = true
    · rw [if_pos hw]
      refine ⟨[], gap, ?_, by rwa [List.append_nil]⟩
      exact isFirstRun_of_gap h.isGap hrun ((hQ h).2 hw)
    · have hnot := mt (hQ h).1 hw
      have hlater := ih h.next
      rw [if_neg hw]
      cases hfirst : firstWord? test ws with
      | none =>
        simp only [hfirst] at hlater
        exact hlater.append h.isGap hrun hnot fun _ _ _ => Iff.rfl
      | some found =>
        simp only [hfirst] at hlater
        obtain ⟨front, gap', hlater, hfollow⟩ := hlater
        refine ⟨gap ++ (w.text ++ front), gap', ?_, by simpa only [List.append_assoc] using hfollow⟩
        have hlater := hlater.append h.isGap hrun hnot fun _ _ _ => Iff.rfl
        simpa only [List.append_assoc] using hlater

/-- The same for all words of a text. -/
theorem firstWord?_wordsOf (cs : List Char) :
    match firstWord? test (wordsOf cs) with
    | some (w, ws) => ∃ front gap, IsFirstRun (fun _ => Q) cs (front ++ gap) w.text
        (w.after ++ Word.textOf ws) ∧ Word.Follow front gap (w :: ws)
    | none => HasNoRun (fun _ => Q) cs := by
  have hspec := firstWord?_spec hQ (Word.follow_wordsOf cs)
  rw [← (remain_wordsOf cs).text] at hspec
  exact hspec

end FirstWord

theorem isSome_firstWord? (test : Word → Bool) (ws : List Word) :
    (firstWord? (fun w _ => test w) ws).isSome = ws.any test := by
  induction ws with
  | nil => rfl
  | cons w ws ih =>
    rw [firstWord?, List.any_cons]
    by_cases hw : test w = true
    · rw [if_pos hw, hw]
      rfl
    · rw [if_neg hw, ih, Bool.eq_false_of_not_eq_true hw, Bool.false_or]

/-- A test is true for some word if some run of the text has the property. -/
theorem any_wordsOf_iff {Q : List Char → List Char → Prop} {test : Word → Bool}
    (hQ : ∀ {before gap w ws}, Word.Follow before gap (w :: ws) →
      (Q w.text (w.after ++ Word.textOf ws) ↔ test w = true)) (cs : List Char) :
    (wordsOf cs).any test = true ↔ ¬HasNoRun (fun _ => Q) cs := by
  have hfirst := firstWord?_wordsOf hQ cs
  rw [← isSome_firstWord?]
  cases hword : firstWord? (fun w _ => test w) (wordsOf cs) with
  | none =>
    simp only [hword] at hfirst
    exact iff_of_false nofun (not_not.2 hfirst)
  | some found =>
    simp only [hword] at hfirst
    obtain ⟨front, gap, hfirst, -⟩ := hfirst
    exact iff_of_true rfl fun hnone => hnone _ _ _ hfirst.eq_append hfirst.isRun hfirst.holds

end QueryLint.Text
