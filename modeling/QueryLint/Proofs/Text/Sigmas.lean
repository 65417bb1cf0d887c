import Mathlib.Data.List.TakeWhile
import QueryLint.Text.Lowercase

/-!
# Lower case of a part of a text

All characters but one have a lower case of their own.  The capital sigma has two small forms, and
the letters around it decide which of them it gets.  So when a part of a text is put into lower case
by itself, its sigmas may end a word that goes on in the text, or the other way round, and then the
lower case of the part need not stand in the lower case of the text.

Only the nearest character on each side that is not case-ignorable decides.  A sigma is settled by
what stands around it in the part if that stays so whatever stands around the part.

* `firstCase`: the case of the nearest character that counts.
* `lowercaseWithin`: the lower case of a part, between what stands in front and behind.
* `SettlesSigmas`: all capital sigmas of a text are settled.
* `settlesSigmas_iff`: exactly these texts are found, in lower case, wherever they stand.
-/

namespace QueryLint.Text

/-! ## What decides about a sigma -/

/-- The case of the first character that is not case-ignorable, if there is one. -/
def firstCase (cs : List Char) : Option Bool :=
  (cs.find? fun c => !isCaseIgnorable c).map isCased

theorem startsCased_eq (cs : List Char) : startsCased cs = (firstCase cs).getD false := by
  rw [startsCased, firstCase, List.find?_not_eq_head?_dropWhile]
  cases cs.dropWhile isCaseIgnorable <;> rfl

theorem firstCase_append (xs ys : List Char) :
    firstCase (xs ++ ys) = (firstCase xs).or (firstCase ys) := by
  rw [firstCase, List.find?_append, Option.map_or, firstCase, firstCase]

theorem firstCase_cons (c : Char) (cs : List Char) :
    firstCase (c :: cs) = (firstCase [c]).or (firstCase cs) :=
  firstCase_append [c] cs

theorem firstCase_sigma (cs : List Char) : firstCase ('Σ' :: cs) = some true := by
  have hsigma : firstCase ['Σ'] = some true := by decide +kernel
  rw [firstCase_cons, hsigma, Option.some_or]

/-- A text in which no character counts has no sigma. -/
theorem sigma_notMem_of_firstCase_eq_none {cs : List Char} (h : firstCase cs = none) :
    'Σ' ∉ cs := by
  intro hmem
  obtain ⟨front, back, rfl⟩ := List.append_of_mem hmem
  rw [firstCase_append, firstCase_sigma] at h
  cases hfront : firstCase front <;> simp [hfront] at h

/-- The small form of a sigma, where `before` holds the characters in front, nearest first. -/
def sigmaForm (before behind : List Char) : Char :=
  if startsCased before && !startsCased behind then 'ς' else 'σ'

theorem sigmaForm_congr {before before' behind behind' : List Char}
    (hbefore : firstCase before = firstCase before')
    (hbehind : firstCase behind = firstCase behind') :
    sigmaForm before behind = sigmaForm before' behind' := by
  simp only [sigmaForm, startsCased_eq, hbefore, hbehind]

/-! ## Parts of a text -/

/-- The lower case of a part of a text, where `before` holds the characters in front of it, nearest
first, and `behind` those behind it. -/
def lowercaseWithin (before behind : List Char) : List Char → List Char
  | [] => []
  | c :: cs =>
    (if c == 'Σ' then [sigmaForm before (cs ++ behind)] else lowercaseChar c) ++
      lowercaseWithin (c :: before) behind cs

theorem lowercaseWithin_sigma (before behind cs : List Char) :
    lowercaseWithin before behind ('Σ' :: cs) =
      sigmaForm before (cs ++ behind) :: lowercaseWithin ('Σ' :: before) behind cs :=
  rfl

theorem lowercaseWithin_of_ne {c : Char} (hc : c ≠ 'Σ') (before behind cs : List Char) :
    lowercaseWithin before behind (c :: cs) =
      lowercaseChar c ++ lowercaseWithin (c :: before) behind cs := by
  rw [lowercaseWithin, if_neg (by simpa using hc)]

/-- The lower case of a text is that of a part and of what stands behind it. -/
theorem lowercaseAfter_append (before cs behind : List Char) :
    lowercaseAfter before (cs ++ behind) =
      lowercaseWithin before behind cs ++ lowercaseAfter (cs.reverse ++ before) behind := by
  induction cs generalizing before with
  | nil => rfl
  | cons c cs ih =>
    rw [List.cons_append, lowercaseAfter, ih, lowercaseWithin, List.append_assoc,
      List.reverse_cons, List.append_assoc]
    rfl

theorem lowercaseAfter_eq (before cs : List Char) :
    lowercaseAfter before cs = lowercaseWithin before [] cs := by
  have happend := lowercaseAfter_append before cs []
  rwa [List.append_nil, lowercaseAfter, List.append_nil] at happend

theorem lowercaseWithin_append (before behind xs ys : List Char) :
    lowercaseWithin before behind (xs ++ ys) =
      lowercaseWithin before (ys ++ behind) xs ++
        lowercaseWithin (xs.reverse ++ before) behind ys := by
  induction xs generalizing before with
  | nil => rfl
  | cons c xs ih =>
    rw [List.cons_append, lowercaseWithin, ih, lowercaseWithin, List.append_assoc,
      List.append_assoc, List.reverse_cons, List.append_assoc]
    rfl

/-- A part of a text, in lower case, stands in the lower case of the text. -/
theorem isInfix_lowercaseWithin (front cs back : List Char) :
    lowercaseWithin front.reverse back cs <:+: lowercaseAfter [] (front ++ cs ++ back) := by
  refine ⟨lowercaseWithin [] (cs ++ back) front,
    lowercaseAfter (cs.reverse ++ front.reverse) back, ?_⟩
  rw [List.append_assoc front, lowercaseAfter_append, lowercaseAfter_append, List.append_nil,
    List.append_assoc]

/-- The surroundings of a part matter only by what counts in them. -/
theorem lowercaseWithin_congr {before before' behind behind' : List Char} (cs : List Char)
    (hbefore : firstCase before = firstCase before')
    (hbehind : firstCase behind = firstCase behind') :
    lowercaseWithin before behind cs = lowercaseWithin before' behind' cs := by
  induction cs generalizing before before' with
  | nil => rfl
  | cons c cs ih =>
    have hform : sigmaForm before (cs ++ behind) = sigmaForm before' (cs ++ behind') :=
      sigmaForm_congr hbefore (by rw [firstCase_append, firstCase_append, hbehind])
    have hnext : firstCase (c :: before) = firstCase (c :: before') := by
      rw [firstCase_cons, hbefore, ← firstCase_cons]
    rw [lowercaseWithin, lowercaseWithin, hform, ih hnext]

/-- Without sigmas the surroundings do not matter. -/
theorem lowercaseWithin_of_notMem {cs : List Char} (h : 'Σ' ∉ cs) (before behind : List Char) :
    lowercaseWithin before behind cs = cs.flatMap lowercaseChar := by
  induction cs generalizing before with
  | nil => rfl
  | cons c cs ih =>
    rw [List.mem_cons, not_or] at h
    rw [lowercaseWithin_of_ne (Ne.symm h.1), ih h.2, List.flatMap_cons]

/-! ## Settled sigmas -/

/-- What stands on both sides of a sigma settles its form: a letter without case in front, a cased
letter behind, or letters on both sides. -/
def IsSettled (front back : List Char) : Prop :=
  firstCase front.reverse = some false ∨ firstCase back = some true ∨
    firstCase front.reverse ≠ none ∧ firstCase back ≠ none

/-- All capital sigmas of a text are settled by what stands around them in the text. -/
def SettlesSigmas (cs : List Char) : Prop :=
  ∀ front back, cs = front ++ 'Σ' :: back → IsSettled front back

theorem settlesSigmas_of_notMem {cs : List Char} (h : 'Σ' ∉ cs) : SettlesSigmas cs := by
  rintro front back rfl
  exact absurd (List.mem_append_right front List.mem_cons_self) h

/-- What is put around a settled sigma does not change its form. -/
theorem IsSettled.sigmaForm_eq {front back : List Char} (h : IsSettled front back)
    (before behind : List Char) :
    sigmaForm (front.reverse ++ before) (back ++ behind) = sigmaForm front.reverse back := by
  simp only [sigmaForm, startsCased_eq, firstCase_append]
  rcases h with hfront | hback | ⟨hfront, hback⟩
  · simp [hfront]
  · simp [hback]
  · obtain ⟨x, hx⟩ := Option.ne_none_iff_exists'.1 hfront
    obtain ⟨y, hy⟩ := Option.ne_none_iff_exists'.1 hback
    simp [hx, hy]

/-- If all its sigmas are settled, a part of a text has its own lower case also within the text. -/
theorem SettlesSigmas.lowercaseWithin_eq {cs : List Char} (h : SettlesSigmas cs)
    (before behind : List Char) : lowercaseWithin before behind cs = lowercaseWithin [] [] cs := by
  -- the induction passes through `cs`; `front` is the part that it has passed
  suffices haux : ∀ rest front, cs = front ++ rest →
      lowercaseWithin (front.reverse ++ before) behind rest =
        lowercaseWithin front.reverse [] rest from haux cs [] rfl
  intro rest
  induction rest with
  | nil => exact fun _ _ => rfl
  | cons c rest ih =>
    intro front hsplit
    have hnext := ih (front ++ [c]) (by rw [hsplit, List.append_assoc, List.singleton_append])
    rw [List.reverse_append, List.reverse_singleton, List.singleton_append, List.cons_append]
      at hnext
    by_cases hc : c = 'Σ'
    · subst hc
      rw [lowercaseWithin_sigma, lowercaseWithin_sigma, hnext, List.append_nil,
        (h front rest hsplit).sigmaForm_eq]
    · rw [lowercaseWithin_of_ne hc, lowercaseWithin_of_ne hc, hnext]

/-! ## Sigmas that are not settled -/

/-- A sigma hides what stands on its one side from what stands on the other. -/
theorem lowercaseWithin_split (before behind front back : List Char) :
    lowercaseWithin before behind (front ++ 'Σ' :: back) =
      lowercaseWithin before ['Σ'] front ++
        sigmaForm (front.reverse ++ before) (back ++ behind) ::
          lowercaseWithin ['Σ'] behind back := by
  have hfront : lowercaseWithin before ('Σ' :: back ++ behind) front =
      lowercaseWithin before ['Σ'] front :=
    lowercaseWithin_congr front rfl (by rw [List.cons_append, firstCase_sigma, firstCase_sigma])
  have hback : lowercaseWithin ('Σ' :: (front.reverse ++ before)) behind back =
      lowercaseWithin ['Σ'] behind back :=
    lowercaseWithin_congr back (by rw [firstCase_sigma, firstCase_sigma]) rfl
  rw [lowercaseWithin_append, lowercaseWithin_sigma, hfront, hback]

/-- A text with another character in one place has one of the first character less. -/
theorem not_infix_of_ne {before xs ys behind : List Char} {c d : Char} (hne : d ≠ c)
    (hbefore : c ∉ before) (hbehind : c ∉ behind) :
    ¬ xs ++ c :: ys <:+: before ++ (xs ++ d :: ys) ++ behind := by
  intro hinfix
  have hcount := hinfix.sublist.count_le c
  simp only [List.count_append, List.count_cons_self, List.count_cons_of_ne hne,
    List.count_eq_zero.2 hbefore, List.count_eq_zero.2 hbehind] at hcount
  omega

variable {front back : List Char}

/-- A sigma with nothing that counts in front of it ends a word as soon as a letter is put there. -/
theorem not_infix_of_open_front (hfront : firstCase front.reverse = none)
    (hback : firstCase back ≠ some true) :
    ¬ lowercaseAfter [] (front ++ 'Σ' :: back) <:+:
      lowercaseAfter [] ('a' :: (front ++ 'Σ' :: back)) := by
  have hmem : 'Σ' ∉ front := fun h =>
    sigma_notMem_of_firstCase_eq_none hfront (List.mem_reverse.2 h)
  have hlone : sigmaForm (front.reverse ++ []) (back ++ []) = 'σ' := by
    simp [sigmaForm, startsCased_eq, hfront]
  have hfinal : sigmaForm (front.reverse ++ ['a']) (back ++ []) = 'ς' := by
    have hletter : firstCase ['a'] = some true := by decide
    have hstart : (firstCase back).getD false = false := by
      rcases hcase : firstCase back with _ | _ | _
      · rfl
      · rfl
      · exact absurd hcase hback
    simp [sigmaForm, startsCased_eq, firstCase_append, hfront, hletter, hstart]
  rw [lowercaseAfter_eq, lowercaseAfter_eq, lowercaseWithin_of_ne (by decide),
    lowercaseWithin_split, lowercaseWithin_split, lowercaseWithin_of_notMem hmem,
    lowercaseWithin_of_notMem hmem, hlone, hfinal]
  have hother := @not_infix_of_ne ['a'] (front.flatMap lowercaseChar)
    (lowercaseWithin ['Σ'] [] back) [] 'σ' 'ς' (by decide) (by decide) (by decide)
  rwa [List.append_nil] at hother

/-- A sigma with nothing that counts behind it ends no word any more as soon as a letter is put
there. -/
theorem not_infix_of_open_back (hfront : firstCase front.reverse = some true)
    (hback : firstCase back = none) :
    ¬ lowercaseAfter [] (front ++ 'Σ' :: back) <:+:
      lowercaseAfter [] (front ++ 'Σ' :: back ++ ['a']) := by
  have hmem : 'Σ' ∉ back := sigma_notMem_of_firstCase_eq_none hback
  have hlone : sigmaForm (front.reverse ++ []) (back ++ []) = 'ς' := by
    simp [sigmaForm, startsCased_eq, hfront, hback]
  have hinner : sigmaForm (front.reverse ++ []) (back ++ ['a']) = 'σ' := by
    have hletter : firstCase ['a'] = some true := by decide
    simp [sigmaForm, startsCased_eq, firstCase_append, hback, hletter]
  rw [lowercaseAfter_append [] _ ['a'], lowercaseAfter_eq, lowercaseWithin_split,
    lowercaseWithin_split, lowercaseWithin_of_notMem hmem, lowercaseWithin_of_notMem hmem, hlone,
    hinner]
  exact @not_infix_of_ne [] (lowercaseWithin [] ['Σ'] front) (back.flatMap lowercaseChar) ['a'] 'ς'
    'σ' (by decide) (by decide) (by decide)

/-- A text is found in lower case, wherever it stands, if and only if all its sigmas are settled. -/
theorem settlesSigmas_iff {cs : List Char} : SettlesSigmas cs ↔
    ∀ text, cs <:+: text → lowercaseAfter [] cs <:+: lowercaseAfter [] text := by
  constructor
  · rintro h _ ⟨front, back, rfl⟩
    rw [lowercaseAfter_eq [] cs, ← h.lowercaseWithin_eq front.reverse back]
    exact isInfix_lowercaseWithin front cs back
  · rintro h front back rfl
    rcases hfront : firstCase front.reverse with _ | _ | _
    · by_cases hback : firstCase back = some true
      · exact .inr (.inl hback)
      · exact absurd (h _ (List.suffix_cons _ _).isInfix) (not_infix_of_open_front hfront hback)
    · exact .inl hfront
    · by_cases hback : firstCase back = none
      · exact absurd (h _ (List.prefix_append _ _).isInfix) (not_infix_of_open_back hfront hback)
      · exact .inr (.inr ⟨by rw [hfront]; exact Option.some_ne_none _, hback⟩)

end QueryLint.Text
