import Mathlib.Data.List.Forall2
import QueryLint.Proofs.Text.Marking
import QueryLint.Proofs.Text.Trimming
import QueryLint.Text.LetterCase

/-!
# Texts that look alike

Two texts can differ and still be the same to a reader of keywords.  `Leeway` names the two ways
that matter here: letters of another case, and other white space where there is white space.
`Alike` is the relation.  It goes from left to right through both texts, character by character, or
with `spacing` stretch by stretch of white space.

The two ways are treated as one, because whoever reads keywords has to do the same steps in both
texts for the same reasons.  The only difference is in places: with `letterCase` everything stays
where it is, and with `spacing` nothing needs to.  `Leeway.SamePlace` is equality in the first case
and no condition in the second.

* `Leeway.Chars.apply_eq`: what does not see the case of the twenty-six letters does not see any
  difference between characters.
* `Alike.cons_inv`: the inversion at a character that is not white space.
* `Alike.trim`, `Alike.blankPrefix`, `Alike.byteSize`: ends and sizes.
-/

namespace QueryLint.Text

/-- What two texts may differ in. -/
inductive Leeway where
  /-- The case of ASCII letters. -/
  | letterCase
  /-- The amount and kind of white space. -/
  | spacing
  deriving DecidableEq, Repr

namespace Leeway

/-- Characters that may stand for each other. -/
def Chars : Leeway → Char → Char → Prop
  | letterCase, c, d => c.toLower = d.toLower
  | spacing, c, d => c = d

/-- Equality, unless places may differ. -/
def SamePlace {α : Type} (l : Leeway) (x y : α) : Prop := l = .letterCase → x = y

variable {l : Leeway} {c d : Char}

theorem SamePlace.add {k m n o : Nat} (h : l.SamePlace k m) (h' : l.SamePlace n o) :
    l.SamePlace (k + n) (m + o) := fun hl => congrArg₂ _ (h hl) (h' hl)

theorem samePlace_of_spacing {α : Type} (h : l = .spacing) (x y : α) : l.SamePlace x y := by
  intro hl
  rw [h] at hl
  exact absurd hl (by decide)

theorem Chars.refl (l : Leeway) (c : Char) : l.Chars c c := by
  cases l <;> exact rfl

theorem Chars.symm (h : l.Chars c d) : l.Chars d c := by
  cases l with
  | letterCase => exact Eq.symm h
  | spacing => exact Eq.symm h

end Leeway

/-! ## Characters -/

/-- The code points of the capital letters. -/
def capitals : List Nat := List.range' 65 26

/-- Only capital letters have another lower case. -/
theorem toLower_eq_or (c : Char) : c.toLower = c ∨ c.toNat ∈ capitals := by
  by_cases h : c.val ≥ 'A'.val ∧ c.val ≤ 'Z'.val
  · refine Or.inr ?_
    obtain ⟨hlow, hhigh⟩ := h
    have hlow' : 65 ≤ c.toNat := UInt32.le_iff_toNat_le.1 hlow
    have hhigh' : c.toNat ≤ 90 := UInt32.le_iff_toNat_le.1 hhigh
    rw [capitals, List.mem_range'_1]
    omega
  · exact Or.inl (dif_neg h)

/-- What takes the twenty-six pairs of letters for the same takes every character for the same as
its lower case. -/
theorem apply_toLower {α : Type} {f : Char → α}
    (hf : ∀ n ∈ capitals, f (Char.ofNat n).toLower = f (Char.ofNat n)) (c : Char) :
    f c.toLower = f c := by
  rcases toLower_eq_or c with h | h
  · rw [h]
  · have hc := hf c.toNat h
    rwa [Char.ofNat_toNat] at hc

/-- The same for simple case folding, if two more characters are taken for letters. -/
theorem apply_foldChar {α : Type} {f : Char → α}
    (hf : ∀ n ∈ capitals, f (Char.ofNat n).toLower = f (Char.ofNat n)) (hs : f 's' = f 'ſ')
    (hk : f 'k' = f '\u212A') (c : Char) : f (foldChar c) = f c := by
  rw [foldChar]
  split
  next h => rw [beq_iff_eq.1 h, hs]
  next =>
    split
    next h => rw [beq_iff_eq.1 h, hk]
    next => exact apply_toLower hf c

/-- The letters that a character outside ASCII folds to as well, and these characters. -/
def threefold : List Char := ['s', 'k', 'ſ', '\u212A']

theorem foldChar_eq_iff_toLower_eq {c d : Char} (hd : d ∉ threefold) :
    foldChar c = d ↔ c.toLower = d := by
  rw [foldChar]
  split
  next h =>
    obtain rfl := beq_iff_eq.1 h
    refine iff_of_false ?_ ?_
    all_goals
      rintro rfl
      exact hd (by decide)
  next =>
    split
    next h =>
      obtain rfl := beq_iff_eq.1 h
      refine iff_of_false ?_ ?_
      all_goals
        rintro rfl
        exact hd (by decide)
    next => rfl

/-- Without these letters simple case folding is about the case of ASCII letters only. -/
theorem map_foldChar_eq_iff {word chars : List Char} (h : chars.all (· ∉ threefold)) :
    word.map foldChar = chars ↔ word.map Char.toLower = chars := by
  induction word generalizing chars with
  | nil => rfl
  | cons c cs ih =>
    cases chars with
    | nil => exact ⟨nofun, nofun⟩
    | cons d ds =>
      rw [List.all_cons, Bool.and_eq_true, decide_eq_true_eq] at h
      rw [List.map_cons, List.map_cons, List.cons.injEq, List.cons.injEq,
        foldChar_eq_iff_toLower_eq h.1, ih h.2]

theorem toUpper_toLower (c : Char) : c.toLower.toUpper = c.toUpper := apply_toLower (by decide) c

theorem map_toUpper_eq_of_map_foldChar {word chars : List Char} (h : chars.all (· ∉ threefold))
    (hword : word.map foldChar = chars) : word.map Char.toUpper = chars.map Char.toUpper := by
  rw [← (map_foldChar_eq_iff h).1 hword, List.map_map]
  exact List.map_congr_left fun c _ => (toUpper_toLower c).symm

theorem isBlank_foldChar (c : Char) : isBlank (foldChar c) = isBlank c :=
  apply_foldChar (by decide) (by decide) (by decide) c

theorem isWordChar_foldChar (c : Char) : isWordChar (foldChar c) = isWordChar c :=
  apply_foldChar (by decide) (by decide +kernel) (by decide +kernel) c

namespace Leeway.Chars

variable {l : Leeway} {c d : Char}

/-- What does not see the case of letters does not see a difference between characters. -/
theorem apply_eq {α : Type} {f : Char → α} (h : l.Chars c d)
    (hf : ∀ n ∈ capitals, f (Char.ofNat n).toLower = f (Char.ofNat n)) : f c = f d := by
  cases l with
  | letterCase =>
    have hlower : c.toLower = d.toLower := h
    rw [← apply_toLower hf c, hlower, apply_toLower hf d]
  | spacing =>
    obtain rfl : c = d := h
    rfl

theorem isWordChar_eq (h : l.Chars c d) : isWordChar c = isWordChar d := h.apply_eq (by decide)

theorem isBlank_eq (h : l.Chars c d) : isBlank c = isBlank d := h.apply_eq (by decide)

theorem foldChar_eq (h : l.Chars c d) : foldChar c = foldChar d := h.apply_eq (by decide)

theorem toLower_eq (h : l.Chars c d) : c.toLower = d.toLower := h.apply_eq (by decide)

theorem toUpper_eq (h : l.Chars c d) : c.toUpper = d.toUpper := h.apply_eq (by decide)

theorem utf8Size_eq (h : l.Chars c d) : c.utf8Size = d.utf8Size := h.apply_eq (by decide)

end Leeway.Chars

/-- The signs that the checks of a query look for. -/
def signs : List Char := ['\'', '"', '(', ')', ';', '-', '.', '*', '=', '<', '>', '!', '1']

theorem isBlank_of_mem_signs {x : Char} (h : x ∈ signs) : isBlank x = false := by
  have hall : signs.all (fun x => !isBlank x) = true := by decide
  simpa using List.all_eq_true.1 hall x h

/-- No sign is a letter, so both characters are the sign or none is. -/
theorem Leeway.Chars.eq_sign_iff {l : Leeway} {c d x : Char} (h : l.Chars c d) (hx : x ∈ signs) :
    c = x ↔ d = x := by
  have hall : signs.all (fun x => capitals.all fun n =>
      ((Char.ofNat n).toLower == x) == (Char.ofNat n == x)) = true := by decide
  have hletters : ∀ n ∈ capitals, ((Char.ofNat n).toLower == x) = (Char.ofNat n == x) := by
    intro n hn
    exact beq_iff_eq.1 (List.all_eq_true.1 (List.all_eq_true.1 hall x hx) n hn)
  have hbeq : (c == x) = (d == x) := h.apply_eq (f := (· == x)) hletters
  rw [← beq_iff_eq, hbeq, beq_iff_eq]

/-! ## Trimming the end -/

theorem trimEnd_cons (c : Char) (cs : List Char) :
    trimEnd (c :: cs) = if trimEnd cs = [] ∧ isBlank c = true then [] else c :: trimEnd cs := by
  rw [trimEnd]
  cases trimEnd cs with
  | nil => simp
  | cons d ds => simp

/-- White space in front of a text stays if anything of the text does. -/
theorem trimEnd_blank_append {bs : List Char} (hb : IsBlankText bs) (cs : List Char) :
    trimEnd (bs ++ cs) = if trimEnd cs = [] then [] else bs ++ trimEnd cs := by
  induction bs with
  | nil =>
    by_cases hcs : trimEnd cs = []
    · rw [if_pos hcs, List.nil_append, hcs]
    · rw [if_neg hcs]
      rfl
  | cons b bs ih =>
    obtain ⟨hblank, hbs⟩ := List.forall_mem_cons.1 hb
    rw [List.cons_append, trimEnd_cons, ih hbs]
    by_cases hcs : trimEnd cs = []
    · simp [hcs, hblank]
    · simp [hcs]

/-! ## Texts -/

/-- A stretch of white space. -/
structure IsBlankRun (cs : List Char) : Prop where
  ne_nil : cs ≠ []
  isBlankText : IsBlankText cs

/-- The texts differ only within the leeway. -/
inductive Alike (l : Leeway) : List Char → List Char → Prop
  | nil : Alike l [] []
  | cons {c d : Char} {cs ds : List Char} (char : l.Chars c d) (rest : Alike l cs ds) :
      Alike l (c :: cs) (d :: ds)
  | gap {b b' cs ds : List Char} (loose : l = .spacing) (left : IsBlankRun b)
      (right : IsBlankRun b') (rest : Alike l cs ds) : Alike l (b ++ cs) (b' ++ ds)

namespace Alike

variable {l : Leeway} {cs ds es fs : List Char} {c : Char}

theorem refl (l : Leeway) (cs : List Char) : Alike l cs cs := by
  induction cs with
  | nil => exact .nil
  | cons c cs ih => exact .cons (.refl l c) ih

theorem symm (h : Alike l cs ds) : Alike l ds cs := by
  induction h with
  | nil => exact .nil
  | cons char _ ih => exact .cons char.symm ih
  | gap loose left right _ ih => exact .gap loose right left ih

theorem append (h : Alike l cs ds) (h' : Alike l es fs) : Alike l (cs ++ es) (ds ++ fs) := by
  induction h with
  | nil => exact h'
  | cons char _ ih => exact .cons char ih
  | gap loose left right _ ih =>
    rw [List.append_assoc, List.append_assoc]
    exact .gap loose left right ih

theorem of_forall₂ (h : List.Forall₂ l.Chars cs ds) : Alike l cs ds := by
  induction h with
  | nil => exact .nil
  | cons char _ ih => exact .cons char ih

/-- Texts with the same lower case are alike. -/
theorem of_map_toLower_eq (h : cs.map Char.toLower = ds.map Char.toLower) :
    Alike .letterCase cs ds := by
  induction cs generalizing ds with
  | nil =>
    obtain rfl := List.map_eq_nil_iff.1 h.symm
    exact .nil
  | cons c cs ih =>
    obtain ⟨d, es, rfl, hd, hes⟩ := List.map_eq_cons_iff.1 h.symm
    exact .cons hd.symm (ih hes.symm)

/-- A character that is not white space stands for one in the other text. -/
theorem cons_inv (h : Alike l (c :: cs) es) (hc : isBlank c = false) :
    ∃ d ds, es = d :: ds ∧ l.Chars c d ∧ Alike l cs ds := by
  generalize hleft : c :: cs = left at h
  cases h with
  | nil => exact absurd hleft (List.cons_ne_nil c cs)
  | cons char rest =>
    obtain ⟨rfl, rfl⟩ := List.cons.inj hleft
    exact ⟨_, _, rfl, char, rest⟩
  | gap loose left right rest =>
    obtain ⟨b, bs, rfl⟩ := List.exists_cons_of_ne_nil left.ne_nil
    obtain ⟨rfl, -⟩ := List.cons.inj hleft
    have hblank := left.isBlankText c List.mem_cons_self
    rw [hc] at hblank
    exact absurd hblank Bool.false_ne_true

theorem nil_inv (h : Alike l [] ds) : ds = [] := by
  generalize hleft : [] = left at h
  cases h with
  | nil => rfl
  | cons => exact absurd hleft.symm (List.cons_ne_nil _ _)
  | gap loose left right rest =>
    exact absurd (List.append_eq_nil_iff.1 hleft.symm).1 left.ne_nil

theorem eq_nil_iff (h : Alike l cs ds) : cs = [] ↔ ds = [] := by
  constructor
  · rintro rfl
    exact h.nil_inv
  · rintro rfl
    exact h.symm.nil_inv

/-- A sign stands for itself. -/
theorem sign_inv {x : Char} (hx : x ∈ signs) (h : Alike l (x :: cs) es) :
    ∃ ds, es = x :: ds ∧ Alike l cs ds := by
  obtain ⟨d, ds, rfl, char, rest⟩ := h.cons_inv (isBlank_of_mem_signs hx)
  exact ⟨ds, by rw [(char.eq_sign_iff hx).1 rfl], rest⟩

/-- A text of signs looks like no other text. -/
theorem signs_inv {t : List Char} (ht : t ⊆ signs) (h : Alike l t ds) : ds = t := by
  induction t generalizing ds with
  | nil => exact h.nil_inv
  | cons x t ih =>
    obtain ⟨hx, ht⟩ := List.cons_subset.1 ht
    obtain ⟨ds, rfl, rest⟩ := h.sign_inv hx
    rw [ih ht rest]

theorem eq_signs_iff {t : List Char} (ht : t ⊆ signs) (h : Alike l cs ds) :
    cs = t ↔ ds = t := by
  constructor
  · rintro rfl
    exact h.signs_inv ht
  · rintro rfl
    exact h.symm.signs_inv ht

theorem head_eq_sign_iff {x : Char} (hx : x ∈ signs) (h : Alike l cs ds) :
    cs.head? = some x ↔ ds.head? = some x := by
  have key {xs ys : List Char} (h : Alike l xs ys) (hxs : xs.head? = some x) :
      ys.head? = some x := by
    obtain ⟨rest, rfl⟩ := List.head?_eq_some_iff.1 hxs
    obtain ⟨ds, rfl, -⟩ := h.sign_inv hx
    rfl
  exact ⟨key h, key h.symm⟩

theorem count_eq {x : Char} (hx : x ∈ signs) (h : Alike l cs ds) : cs.count x = ds.count x := by
  have hblank {b : List Char} (hb : IsBlankRun b) : b.count x = 0 := by
    rw [List.count_eq_zero]
    intro hmem
    have hx' := hb.isBlankText x hmem
    rw [isBlank_of_mem_signs hx] at hx'
    exact absurd hx' Bool.false_ne_true
  induction h with
  | nil => rfl
  | @cons c d cs ds char _ ih =>
    have hbeq : (c == x) = (d == x) := by
      rw [Bool.eq_iff_iff, beq_iff_eq, beq_iff_eq]
      exact char.eq_sign_iff hx
    rw [List.count_cons, List.count_cons, ih, hbeq]
  | gap _ left right _ ih =>
    rw [List.count_append, List.count_append, hblank left, hblank right, ih]

/-! ### Places -/

theorem byteSize (h : Alike l cs ds) : l.SamePlace (byteSize cs) (byteSize ds) := by
  induction h with
  | nil => exact fun _ => rfl
  | cons char _ ih =>
    rw [byteSize_cons, byteSize_cons, char.utf8Size_eq]
    exact Leeway.SamePlace.add (fun _ => rfl) ih
  | gap loose => exact Leeway.samePlace_of_spacing loose _ _

/-! ### White space -/

theorem all_isBlank_eq (h : Alike l cs ds) : cs.all isBlank = ds.all isBlank := by
  have hblank {b : List Char} (hb : IsBlankRun b) : b.all isBlank = true :=
    List.all_eq_true.2 hb.isBlankText
  induction h with
  | nil => rfl
  | cons char _ ih => rw [List.all_cons, List.all_cons, ih, char.isBlank_eq]
  | gap _ left right _ ih =>
    rw [List.all_append, List.all_append, hblank left, hblank right, ih]

theorem head_isBlank_eq (h : Alike l cs ds) :
    cs.head?.any isBlank = ds.head?.any isBlank := by
  cases h with
  | nil => rfl
  | cons char => exact char.isBlank_eq
  | gap _ left right =>
    obtain ⟨b, bs, rfl⟩ := List.exists_cons_of_ne_nil left.ne_nil
    obtain ⟨d, ds, rfl⟩ := List.exists_cons_of_ne_nil right.ne_nil
    have hb : isBlank b = true := left.isBlankText b List.mem_cons_self
    have hd : isBlank d = true := right.isBlankText d List.mem_cons_self
    exact hb.trans hd.symm

theorem trimStart (h : Alike l cs ds) : Alike l (trimStart cs) (trimStart ds) := by
  induction h with
  | nil => exact .nil
  | @cons c d cs ds char rest ih =>
    by_cases hc : isBlank c = true
    · have hd : isBlank d = true := by rwa [← char.isBlank_eq]
      rwa [Text.trimStart, Text.trimStart, List.dropWhile_cons_of_pos hc,
        List.dropWhile_cons_of_pos hd]
    · have hd : ¬ isBlank d = true := by rwa [← char.isBlank_eq]
      rw [Text.trimStart, Text.trimStart, List.dropWhile_cons_of_neg hc,
        List.dropWhile_cons_of_neg hd]
      exact .cons char rest
  | gap _ left right _ ih =>
    rwa [trimStart_append_of_blank left.isBlankText, trimStart_append_of_blank right.isBlankText]

theorem blankPrefix (h : Alike l cs ds) : Alike l (blankPrefix cs) (blankPrefix ds) := by
  induction h with
  | nil => exact .nil
  | @cons c d cs ds char _ ih =>
    by_cases hc : isBlank c = true
    · have hd : isBlank d = true := by rwa [← char.isBlank_eq]
      rw [Text.blankPrefix, Text.blankPrefix, List.takeWhile_cons_of_pos hc,
        List.takeWhile_cons_of_pos hd]
      exact .cons char ih
    · have hd : ¬ isBlank d = true := by rwa [← char.isBlank_eq]
      rw [Text.blankPrefix, Text.blankPrefix, List.takeWhile_cons_of_neg hc,
        List.takeWhile_cons_of_neg hd]
      exact .nil
  | gap loose left right _ ih =>
    rw [Text.blankPrefix, Text.blankPrefix, List.takeWhile_append_of_pos left.isBlankText,
      List.takeWhile_append_of_pos right.isBlankText]
    exact .gap loose left right ih

theorem trimEnd (h : Alike l cs ds) : Alike l (trimEnd cs) (trimEnd ds) := by
  induction h with
  | nil => exact .nil
  | @cons c d cs ds char _ ih =>
    rw [trimEnd_cons, trimEnd_cons]
    have hiff : Text.trimEnd cs = [] ∧ isBlank c = true ↔
        Text.trimEnd ds = [] ∧ isBlank d = true := by
      rw [ih.eq_nil_iff, char.isBlank_eq]
    by_cases hc : Text.trimEnd cs = [] ∧ isBlank c = true
    · rw [if_pos hc, if_pos (hiff.1 hc)]
      exact .nil
    · rw [if_neg hc, if_neg (mt hiff.2 hc)]
      exact .cons char ih
  | @gap b b' cs ds loose left right _ ih =>
    rw [trimEnd_blank_append left.isBlankText, trimEnd_blank_append right.isBlankText]
    by_cases hcs : Text.trimEnd cs = []
    · rw [if_pos hcs, if_pos (ih.eq_nil_iff.1 hcs)]
      exact .nil
    · rw [if_neg hcs, if_neg (mt ih.eq_nil_iff.2 hcs)]
      exact .gap loose left right ih

/-- Trimmed, the texts are alike still. -/
theorem trim (h : Alike l cs ds) : Alike l (trim cs) (trim ds) := h.trimStart.trimEnd

end Alike

end QueryLint.Text
