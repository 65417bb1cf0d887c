import QueryLint.Proofs.Text.FirstParts
import QueryLint.Proofs.Text.Readings
import QueryLint.Proofs.Text.Trimming

/-!
# Runs of word characters

What a word is can be said without reading the text: a run of word characters that goes no further
on either side.  `IsRun` says so of a part of a text, between what stands in front of it and what
stands behind it.  The words that are read off a text are these runs, so what is said about the
runs of a text is said about its words.

* `IsRun.cases`: where a run can be in a text that begins with a gap and a word.
* `IsFirstRun`, `HasNoRun`: the first run with some property, or none; both are found by going from
  word to word (`isFirstRun_of_gap`, `IsFirstRun.append`, `HasNoRun.append`).
* `Word.Laid.isRun`, `Word.Laid.isRun_next`: words that are laid out are runs.
-/

namespace QueryLint.Text

/-- In a text with `before` in front and `after` behind it, `word` is a whole word. -/
structure IsRun (before word after : List Char) : Prop where
  isWordText : IsWordText word
  before : ∀ c ∈ before.getLast?, isWordChar c = false
  after : ∀ c ∈ after.head?, isWordChar c = false

variable {gap text rest front word after : List Char}

theorem IsGap.getLast? (h : IsGap gap) : ∀ c ∈ gap.getLast?, isWordChar c = false :=
  fun _ hc => h _ (List.mem_of_getLast? hc)

theorem IsBlankText.isGap (h : IsBlankText gap) : IsGap gap :=
  fun c hc => isWordChar_of_isBlank (h c hc)

/-- Where a word begins there is no white space. -/
theorem isBlank_head?_append (h : IsWordText word) :
    ∀ c ∈ (word ++ after).head?, isBlank c = false := by
  rw [List.head?_append_of_ne_nil _ h.ne_nil]
  exact fun c hc => isBlank_of_isWordChar (h.isWordChar c (List.mem_of_mem_head? hc))

/-- Where white space begins there is no word. -/
theorem isWordChar_head?_append (hne : gap ≠ []) (hgap : IsBlankText gap) :
    ∀ c ∈ (gap ++ rest).head?, isWordChar c = false := by
  rw [List.head?_append_of_ne_nil _ hne]
  exact fun c hc => hgap.isGap c (List.mem_of_mem_head? hc)

/-- Where white space ends there is no word. -/
theorem isWordChar_getLast?_append (hne : gap ≠ []) (hgap : IsBlankText gap) :
    ∀ c ∈ (front ++ gap).getLast?, isWordChar c = false := by
  rw [List.getLast?_append_of_ne_nil _ hne]
  exact hgap.isGap.getLast?

/-- A run is all that can be taken of word characters. -/
theorem takeWhile_isWordChar (hword : ∀ c ∈ word, isWordChar c = true)
    (hafter : ∀ c ∈ after.head?, isWordChar c = false) :
    (word ++ after).takeWhile isWordChar = word := by
  rw [List.takeWhile_append_of_pos hword]
  cases after with
  | nil => rw [List.takeWhile_nil, List.append_nil]
  | cons c cs =>
    have hc : isWordChar c = false := hafter c rfl
    rw [List.takeWhile_cons_of_neg (by simp [hc]), List.append_nil]

/-- A run begins at every word character that does not stand behind one. -/
theorem exists_isRun {before cs : List Char} {c : Char}
    (hbefore : ∀ d ∈ before.getLast?, isWordChar d = false) (hc : isWordChar c = true) :
    ∃ word after, c :: cs = word ++ after ∧ IsRun before word after := by
  refine ⟨(c :: cs).takeWhile isWordChar, (c :: cs).dropWhile isWordChar,
    List.takeWhile_append_dropWhile.symm, ⟨?_, fun d => List.mem_takeWhile_imp⟩, hbefore, ?_⟩
  · rw [List.takeWhile_cons_of_pos hc]
    exact List.cons_ne_nil _ _
  · intro d hd
    have hstop := List.head?_dropWhile_not isWordChar (c :: cs)
    rwa [Option.mem_def.1 hd] at hstop

/-- A run ends at every word character that does not stand in front of one. -/
theorem exists_isRun_concat (cs : List Char) {c : Char} (hc : isWordChar c = true)
    (hafter : ∀ d ∈ after.head?, isWordChar d = false) :
    ∃ front word, cs ++ [c] = front ++ word ∧ IsRun front word after := by
  refine ⟨(cs ++ [c]).rdropWhile isWordChar, (cs ++ [c]).rtakeWhile isWordChar,
    (List.rdropWhile_append_rtakeWhile ..).symm, ⟨?_, fun d => List.mem_rtakeWhile_imp⟩, ?_, hafter⟩
  · rw [List.rtakeWhile_concat_pos _ _ _ hc]
    exact List.append_ne_nil_of_right_ne_nil _ (List.cons_ne_nil _ _)
  · intro d hd
    obtain ⟨hne, rfl⟩ := List.mem_getLast?_eq_getLast hd
    simpa using List.rdropWhile_last_not isWordChar (cs ++ [c]) hne

/-- Two runs at the same place are the same. -/
theorem IsRun.eq_of_append_eq {before before' : List Char} (h : IsRun before word after)
    (h' : IsRun before' text rest) (heq : word ++ after = text ++ rest) :
    word = text ∧ after = rest := by
  have hword := takeWhile_isWordChar h.isWordText.isWordChar h.after
  rw [heq, takeWhile_isWordChar h'.isWordText.isWordChar h'.after] at hword
  subst hword
  exact ⟨rfl, List.append_cancel_left heq⟩

/-- There is no word in a gap. -/
theorem IsGap.ne_append (hgap : IsGap gap) (hword : IsWordText word) :
    gap ≠ front ++ (word ++ after) := by
  rintro rfl
  obtain ⟨c, cs, rfl⟩ := List.exists_cons_of_ne_nil hword.ne_nil
  have hchar := hword.isWordChar c List.mem_cons_self
  rw [hgap c (by simp)] at hchar
  cases hchar

/-- Only what stands right in front of a run matters to it. -/
theorem IsRun.of_append {before : List Char} (h : IsRun (before ++ front) word after) :
    IsRun front word after where
  isWordText := h.isWordText
  before c hc := by
    refine h.before c ?_
    rw [List.getLast?_append, hc]
    rfl
  after := h.after

/-- The same for a front that is not empty. -/
theorem IsRun.append {before : List Char} (h : IsRun front word after) (hne : front ≠ []) :
    IsRun (before ++ front) word after where
  isWordText := h.isWordText
  before := by
    rw [List.getLast?_append_of_ne_nil _ hne]
    exact h.before
  after := h.after

theorem IsRun.alone (h : IsRun front word after) : IsRun [] word after where
  isWordText := h.isWordText
  before _ hc := nomatch hc
  after := h.after

/-- Runs do not overlap: of two runs the later one stands behind the other. -/
theorem IsRun.exists_of_length_lt {front' word' after' : List Char} (h : IsRun front word after)
    (h' : IsRun front' word' after') (heq : front ++ (word ++ after) = front' ++ (word' ++ after'))
    (hlength : front.length < front'.length) :
    ∃ mid, front' = front ++ (word ++ mid) ∧ after = mid ++ (word' ++ after') := by
  rcases List.append_eq_append_iff.1 heq with ⟨part, rfl, hbehind⟩ | ⟨part, rfl, -⟩
  · rcases List.append_eq_append_iff.1 hbehind with ⟨mid, rfl, hafter⟩ | ⟨back, hback, -⟩
    · exact ⟨mid, rfl, hafter⟩
    · -- the later run would begin inside of the other
      have hne : part ≠ [] := by
        rintro rfl
        rw [List.append_nil] at hlength
        exact absurd hlength (Nat.lt_irrefl _)
      have hlast := h'.before (part.getLast hne) (by
        rw [List.getLast?_append_of_ne_nil _ hne]
        exact List.getLast?_eq_some_getLast hne)
      have hchar := h.isWordText.isWordChar (part.getLast hne) (by
        rw [hback]
        exact List.mem_append_left _ (List.getLast_mem hne))
      rw [hchar] at hlast
      cases hlast
  · rw [List.length_append] at hlength
    omega

/-- A run in a text that begins with a gap and a word is this word, or it stands behind it. -/
theorem IsRun.cases (hgap : IsGap gap) (htext : IsRun gap text rest)
    (hrun : IsRun front word after) (heq : gap ++ (text ++ rest) = front ++ (word ++ after)) :
    (front = gap ∧ word = text ∧ after = rest) ∨
      ∃ front', front = gap ++ (text ++ front') ∧ rest = front' ++ (word ++ after) ∧
        IsRun front' word after := by
  rcases Nat.lt_trichotomy gap.length front.length with hlt | hsame | hlt
  · obtain ⟨front', rfl, hrest⟩ := htext.exists_of_length_lt hrun heq hlt
    rw [← List.append_assoc] at hrun
    exact Or.inr ⟨front', rfl, hrest, hrun.of_append⟩
  · obtain ⟨rfl, hbehind⟩ := List.append_inj heq hsame
    obtain ⟨hword, hafter⟩ := htext.eq_of_append_eq hrun hbehind
    exact Or.inl ⟨rfl, hword.symm, hafter.symm⟩
  · obtain ⟨mid, hmid, -⟩ := hrun.exists_of_length_lt htext heq.symm hlt
    exact absurd hmid (hgap.ne_append hrun.isWordText)

/-- The first run in a text is the only one with a gap in front. -/
theorem IsRun.unique (hgap : IsGap gap) (hfront : IsGap front) (htext : IsRun gap text rest)
    (hrun : IsRun front word after) (heq : gap ++ (text ++ rest) = front ++ (word ++ after)) :
    front = gap ∧ word = text ∧ after = rest := by
  rcases IsRun.cases hgap htext hrun heq with h | ⟨front', hsplit, -⟩
  · exact h
  · exact absurd hsplit (hfront.ne_append htext.isWordText)

/-! ## The first run with a property -/

/-- Of the runs in a text for which `Q` holds this is the first. -/
structure IsFirstRun (Q : List Char → List Char → List Char → Prop)
    (cs front word after : List Char) : Prop where
  eq_append : cs = front ++ (word ++ after)
  isRun : IsRun front word after
  holds : Q front word after
  length_le : ∀ front' word' after', cs = front' ++ (word' ++ after') →
    IsRun front' word' after' → Q front' word' after' → front.length ≤ front'.length

/-- There is no run in a text for which `Q` holds. -/
def HasNoRun (Q : List Char → List Char → List Char → Prop) (cs : List Char) : Prop :=
  ∀ front word after, cs = front ++ (word ++ after) → IsRun front word after → ¬Q front word after

section First

variable {Q : List Char → List Char → List Char → Prop}

theorem isFirstRun_iff : IsFirstRun Q rest front word after ↔
    IsFirstPart (fun front word after => IsRun front word after ∧ Q front word after)
      rest front word after := by
  constructor
  · rintro ⟨heq, hrun, hQ, hfirst⟩
    exact ⟨heq, ⟨hrun, hQ⟩, fun front' word' after' heq' hboth =>
      hfirst front' word' after' heq' hboth.1 hboth.2⟩
  · rintro ⟨heq, ⟨hrun, hQ⟩, hfirst⟩
    exact ⟨heq, hrun, hQ, fun front' word' after' heq' hrun' hQ' =>
      hfirst front' word' after' heq' ⟨hrun', hQ'⟩⟩

/-- If there is a run with a property, there is a first one. -/
theorem exists_isFirstRun (h : ¬HasNoRun Q rest) :
    ∃ front word after, IsFirstRun Q rest front word after := by
  simp only [isFirstRun_iff]
  refine exists_isFirstPart fun hnone => h fun front word after heq hrun hQ => ?_
  exact hnone front word after heq ⟨hrun, hQ⟩

/-- There is only one first run. -/
theorem IsFirstRun.unique {front' word' after' : List Char} (h : IsFirstRun Q rest front word after)
    (h' : IsFirstRun Q rest front' word' after') : front = front' ∧ word = word' := by
  obtain ⟨hfront, hbehind⟩ := (isFirstRun_iff.1 h).front_eq (isFirstRun_iff.1 h')
  exact ⟨hfront, (h.isRun.eq_of_append_eq h'.isRun hbehind).1⟩

theorem hasNoRun_of_isGap (hgap : IsGap gap) : HasNoRun Q gap :=
  fun _ _ _ heq hrun _ => hgap.ne_append hrun.isWordText heq

/-- The first word of a text has the property. -/
theorem isFirstRun_of_gap (hgap : IsGap gap) (htext : IsRun gap text rest) (hQ : Q gap text rest) :
    IsFirstRun Q (gap ++ (text ++ rest)) gap text rest where
  eq_append := rfl
  isRun := htext
  holds := hQ
  length_le front' word' after' heq hrun _ := by
    rcases IsRun.cases hgap htext hrun heq with ⟨rfl, -⟩ | ⟨mid, rfl, -⟩
    · exact Nat.le_refl _
    · rw [List.length_append]
      exact Nat.le_add_right _ _

variable (hgap : IsGap gap) (htext : IsRun gap text rest) (hQ : ¬Q gap text rest)
  (hmove : ∀ front word after, Q (gap ++ (text ++ front)) word after ↔ Q front word after)

include hgap htext hQ hmove

/-- The first word of a text does not have the property, and one of the others has. -/
theorem IsFirstRun.append (h : IsFirstRun Q rest front word after) :
    IsFirstRun Q (gap ++ (text ++ rest)) (gap ++ (text ++ front)) word after where
  eq_append := by simp only [h.eq_append, List.append_assoc]
  isRun := by
    have hne : front ≠ [] := by
      -- two words do not touch
      rintro rfl
      obtain ⟨c, cs, hword⟩ := List.exists_cons_of_ne_nil h.isRun.isWordText.ne_nil
      have hchar := h.isRun.isWordText.isWordChar c (by rw [hword]; exact List.mem_cons_self)
      rw [htext.after c (by rw [h.eq_append, hword]; rfl)] at hchar
      cases hchar
    rw [← List.append_assoc]
    exact h.isRun.append hne
  holds := (hmove _ _ _).2 h.holds
  length_le front' word' after' heq hrun hQ' := by
    rcases IsRun.cases hgap htext hrun heq with ⟨rfl, rfl, rfl⟩ | ⟨mid, rfl, hrest, hrun'⟩
    · exact absurd hQ' hQ
    · have hle := h.length_le _ _ _ hrest hrun' ((hmove _ _ _).1 hQ')
      simp only [List.length_append]
      omega

/-- No word of a text has the property. -/
theorem HasNoRun.append (h : HasNoRun Q rest) : HasNoRun Q (gap ++ (text ++ rest)) := by
  intro front word after heq hrun hQ'
  rcases IsRun.cases hgap htext hrun heq with ⟨rfl, rfl, rfl⟩ | ⟨mid, rfl, hrest, hrun'⟩
  · exact hQ hQ'
  · exact h _ _ _ hrest hrun' ((hmove _ _ _).1 hQ')

end First

/-! ## Words that are laid out -/

/-- The first word of a text is a run. -/
theorem Word.Laid.isRun {pos : Nat} {w : Word} {ws : List Word} (h : Laid pos (w :: ws))
    (hgap : IsGap gap) : IsRun gap w.text (w.after ++ textOf ws) := by
  cases h with
  | cons _ text after apart _ =>
    refine ⟨text, hgap.getLast?, ?_⟩
    intro c hc
    by_cases hnil : w.after = []
    · have hlast : ws = [] := by
        by_contra hne
        exact apart hne hnil
      rw [hnil, hlast] at hc
      cases hc
    · rw [List.head?_append_of_ne_nil _ hnil] at hc
      exact after c (List.mem_of_mem_head? hc)

/-- What is laid out behind a word, for a text in which other things stand in front. -/
theorem Word.Laid.behind {before : List Char} {w : Word} {ws : List Word}
    (h : Laid (byteSize before) (w :: ws)) :
    IsGap w.after ∧ Laid (byteSize (before ++ w.text ++ w.after)) ws := by
  cases h with
  | cons _ _ hafter _ hrest =>
    rw [List.append_assoc, byteSize_append]
    exact ⟨hafter, hrest⟩

/-- So is every word behind another one. -/
theorem Word.Laid.isRun_next {pos : Nat} {w v : Word} {ws : List Word} (h : Laid pos (w :: v :: ws))
    (before : List Char) : IsRun (before ++ w.after) v.text (v.after ++ textOf ws) := by
  cases h with
  | cons _ _ hafter apart hrest =>
    exact (hrest.isRun hafter).append (apart (List.cons_ne_nil _ _))

end QueryLint.Text
