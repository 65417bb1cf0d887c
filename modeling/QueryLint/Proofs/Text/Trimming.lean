import Mathlib.Data.List.DropRight
import QueryLint.Text.Blank
import QueryLint.Text.WordChar

/-!
# Trimming

A text is the white space it begins with, its trimmed part and the white space it ends in, in
this order (`blankPrefix_append_trim_append_blankSuffix`).  For a text of nothing but white space
all of it counts as the beginning.

White space that is put around a text changes nothing about the trimmed part
(`trim_append_of_blank`).  Unless the text was white space as a whole, what is put in front of
it is then also what the white space at the beginning grows by (`blankPrefix_append_of_blank`).

* `IsBlankText`: a text of white space.
* `Framed`: a text that neither begins nor ends in white space.
-/

namespace QueryLint.Text

/-- A text of nothing but white space. -/
def IsBlankText (cs : List Char) : Prop := ∀ c ∈ cs, isBlank c = true

instance (cs : List Char) : Decidable (IsBlankText cs) :=
  List.decidableBAll (fun c => isBlank c = true) cs

theorem isBlankText_nil : IsBlankText [] := List.forall_mem_nil _

theorem isBlankText_append {xs ys : List Char} :
    IsBlankText (xs ++ ys) ↔ IsBlankText xs ∧ IsBlankText ys :=
  List.forall_mem_append

theorem isBlankText_blankPrefix (cs : List Char) : IsBlankText (blankPrefix cs) := fun _ hc =>
  List.mem_takeWhile_imp hc

/-- In front of what is left of a text there was white space. -/
theorem exists_of_trimStart_eq {cs rest : List Char} (h : trimStart cs = rest) :
    ∃ gap, IsBlankText gap ∧ cs = gap ++ rest :=
  ⟨blankPrefix cs, isBlankText_blankPrefix cs, by rw [← h, blankPrefix_append_trimStart]⟩

/-! ## Word characters -/

/-- The code points of White_Space from U+0080 on are in no range of word characters. -/
theorem wordRanges_contains_blank :
    ∀ n ∈ [0x85, 0xA0, 0x1680, 0x2000, 0x2001, 0x2002, 0x2003, 0x2004, 0x2005, 0x2006, 0x2007,
        0x2008, 0x2009, 0x200A, 0x2028, 0x2029, 0x202F, 0x205F, 0x3000],
      Ranges.contains wordRanges n = false := by
  decide +kernel

/-- No white space is a word character. -/
theorem isWordChar_of_isBlank {c : Char} (h : isBlank c = true) : isWordChar c = false := by
  simp only [isBlank, Bool.or_eq_true, Bool.and_eq_true, decide_eq_true_eq, beq_iff_eq] at h
  rw [isWordChar]
  split
  next hc =>
    have hcode : c.toNat ∈ [9, 10, 11, 12, 13, 32] := by
      simp only [List.mem_cons, List.not_mem_nil, or_false]
      omega
    have hall : ∀ n ∈ [9, 10, 11, 12, 13, 32], isWordChar (Char.ofNat n) = false := by decide
    have hchar : isWordChar c = false :=
      forall_of_toNat_mem (P := fun c => isWordChar c = false) hall hcode
    rwa [isWordChar, if_pos hc] at hchar
  next hc =>
    refine wordRanges_contains_blank _ ?_
    simp only [List.mem_cons, List.not_mem_nil, or_false]
    omega

theorem isBlank_of_isWordChar {c : Char} (h : isWordChar c = true) : isBlank c = false := by
  by_contra hb
  rw [isWordChar_of_isBlank (by simpa using hb)] at h
  exact absurd h (by simp)

/-! ## The end of a text -/

theorem trimEnd_concat (cs : List Char) (c : Char) :
    trimEnd (cs ++ [c]) = if isBlank c then trimEnd cs else cs ++ [c] := by
  induction cs with
  | nil => rfl
  | cons d ds ih =>
    rw [List.cons_append, trimEnd, ih]
    by_cases hc : isBlank c
    · rw [if_pos hc, if_pos hc, trimEnd]
    · rw [if_neg hc, if_neg hc]
      cases ds <;> rfl

/-- Trimming the end drops from the end while there is white space. -/
theorem trimEnd_eq_rdropWhile (cs : List Char) : trimEnd cs = cs.rdropWhile isBlank := by
  induction cs using List.reverseRecOn with
  | nil => rfl
  | append_singleton cs c ih => rw [trimEnd_concat, List.rdropWhile_concat, ih]

theorem trimEnd_append_of_blank (cs : List Char) {bs : List Char} (hb : IsBlankText bs) :
    trimEnd (cs ++ bs) = trimEnd cs := by
  induction bs using List.reverseRecOn with
  | nil => rw [List.append_nil]
  | append_singleton bs b ih =>
    obtain ⟨hbs, hlast⟩ := isBlankText_append.1 hb
    rw [← List.append_assoc, trimEnd_concat, if_pos (hlast b (List.mem_singleton_self b)), ih hbs]

/-- Behind what is left of a text there was white space. -/
theorem exists_of_trimEnd (cs : List Char) : ∃ gap, IsBlankText gap ∧ cs = trimEnd cs ++ gap ∧
    ∀ c ∈ (trimEnd cs).getLast?, isBlank c = false := by
  rw [trimEnd_eq_rdropWhile]
  refine ⟨cs.rtakeWhile isBlank, fun c hc => List.mem_rtakeWhile_imp hc,
    (List.rdropWhile_append_rtakeWhile ..).symm, fun c hc => ?_⟩
  obtain ⟨hne, rfl⟩ := List.mem_getLast?_eq_getLast hc
  simpa using List.rdropWhile_last_not isBlank cs hne

/-- The white space that a text ends in, unless the text is white space as a whole. -/
def blankSuffix (cs : List Char) : List Char := (trimStart cs).rtakeWhile isBlank

/-- Nothing of a text is lost when its ends are trimmed. -/
theorem blankPrefix_append_trim_append_blankSuffix (cs : List Char) :
    blankPrefix cs ++ trim cs ++ blankSuffix cs = cs := by
  rw [trim, trimEnd_eq_rdropWhile, blankSuffix, List.append_assoc,
    List.rdropWhile_append_rtakeWhile, blankPrefix_append_trimStart]

/-! ## White space around a text -/

theorem trimStart_append_of_blank {bs : List Char} (hb : IsBlankText bs) (cs : List Char) :
    trimStart (bs ++ cs) = trimStart cs :=
  List.dropWhile_append_of_pos hb

theorem trimStart_of_head? {cs : List Char} (h : ∀ c ∈ cs.head?, isBlank c = false) :
    trimStart cs = cs := by
  cases cs with
  | nil => rfl
  | cons c cs => exact List.dropWhile_cons_of_neg (by simpa using h c rfl)

/-- White space in front of something else is what the text begins with. -/
theorem trimStart_blanks_append {bs cs : List Char} (hb : IsBlankText bs)
    (h : ∀ c ∈ cs.head?, isBlank c = false) : trimStart (bs ++ cs) = cs := by
  rw [trimStart_append_of_blank hb, trimStart_of_head? h]

theorem blankPrefix_blanks_append {bs cs : List Char} (hb : IsBlankText bs)
    (h : ∀ c ∈ cs.head?, isBlank c = false) : blankPrefix (bs ++ cs) = bs := by
  have hsplit := blankPrefix_append_trimStart (bs ++ cs)
  rw [trimStart_blanks_append hb h] at hsplit
  exact List.append_cancel_right hsplit

theorem trimStart_eq_nil_iff {cs : List Char} : trimStart cs = [] ↔ IsBlankText cs :=
  List.dropWhile_eq_nil_iff

theorem trimStart_append_of_not_blank {cs : List Char} (hcs : ¬ IsBlankText cs)
    (bs : List Char) : trimStart (cs ++ bs) = trimStart cs ++ bs := by
  rw [trimStart, List.dropWhile_append, if_neg]
  · rfl
  · rw [List.isEmpty_iff]
    exact fun h => hcs (trimStart_eq_nil_iff.1 h)

theorem trim_eq_nil_iff {cs : List Char} : trim cs = [] ↔ IsBlankText cs := by
  rw [trim, trimEnd_eq_rdropWhile, List.rdropWhile_eq_nil_iff]
  constructor
  · intro h
    rw [← blankPrefix_append_trimStart cs]
    exact isBlankText_append.2 ⟨isBlankText_blankPrefix cs, h⟩
  · intro h
    rw [trimStart_eq_nil_iff.2 h]
    exact isBlankText_nil

/-- White space around a text does not change the trimmed part. -/
theorem trim_append_of_blank {ps ss : List Char} (hp : IsBlankText ps) (cs : List Char)
    (hs : IsBlankText ss) : trim (ps ++ cs ++ ss) = trim cs := by
  by_cases hcs : IsBlankText cs
  · rw [trim_eq_nil_iff.2 hcs, trim_eq_nil_iff]
    exact isBlankText_append.2 ⟨isBlankText_append.2 ⟨hp, hcs⟩, hs⟩
  · rw [trim, List.append_assoc, trimStart_append_of_blank hp, trimStart_append_of_not_blank hcs,
      trimEnd_append_of_blank _ hs, trim]

/-- White space in front of a text adds to the white space that the text begins with. -/
theorem blankPrefix_append_of_blank {ps cs : List Char} (hp : IsBlankText ps)
    (hcs : ¬ IsBlankText cs) (ss : List Char) :
    blankPrefix (ps ++ cs ++ ss) = ps ++ blankPrefix cs := by
  have hlead : blankPrefix (cs ++ ss) = blankPrefix cs := by
    rw [blankPrefix, List.takeWhile_append, if_neg]
    · rfl
    · intro hlen
      have hself := (List.takeWhile_prefix (p := isBlank) (l := cs)).eq_of_length hlen
      exact hcs (List.takeWhile_eq_self_iff.1 hself)
  rw [List.append_assoc, blankPrefix, List.takeWhile_append_of_pos hp, ← blankPrefix, hlead]

/-! ## Texts that are trimmed already -/

/-- A text that neither begins nor ends in white space. -/
structure Framed (cs : List Char) : Prop where
  ne_nil : cs ≠ []
  head : ∀ c ∈ cs.head?, isBlank c = false
  last : ∀ c ∈ cs.getLast?, isBlank c = false

/-- What stands between two framed texts does not matter. -/
theorem Framed.append {xs ys : List Char} (hx : Framed xs) (middle : List Char) (hy : Framed ys) :
    Framed (xs ++ middle ++ ys) where
  ne_nil h := hy.ne_nil (List.append_eq_nil_iff.1 h).2
  head := by
    rw [List.append_assoc, List.head?_append_of_ne_nil _ hx.ne_nil]
    exact hx.head
  last := by
    rw [List.getLast?_append_of_ne_nil _ hy.ne_nil]
    exact hy.last

theorem framed_singleton {c : Char} (hc : isBlank c = false) : Framed [c] where
  ne_nil := List.cons_ne_nil _ _
  head := by simpa using hc
  last := by simpa using hc

/-- A text of word characters is framed. -/
theorem framed_of_isWordChar {cs : List Char} (hne : cs ≠ [])
    (hcs : ∀ c ∈ cs, isWordChar c = true) : Framed cs where
  ne_nil := hne
  head _ hc := isBlank_of_isWordChar (hcs _ (List.mem_of_mem_head? hc))
  last _ hc := isBlank_of_isWordChar (hcs _ (List.mem_of_mem_getLast? hc))

theorem Framed.trimStart_eq {cs : List Char} (h : Framed cs) : trimStart cs = cs :=
  trimStart_of_head? h.head

theorem Framed.trimEnd_eq {cs : List Char} (h : Framed cs) : trimEnd cs = cs := by
  rw [trimEnd_eq_rdropWhile, List.rdropWhile_eq_self_iff]
  intro hne
  simpa using h.last _ (List.getLast?_eq_some_getLast hne)

/-- Trimming leaves a framed text as it is. -/
theorem Framed.trim_eq {cs : List Char} (h : Framed cs) : trim cs = cs := by
  rw [trim, h.trimStart_eq, h.trimEnd_eq]

theorem Framed.blankPrefix_eq {cs : List Char} (h : Framed cs) : blankPrefix cs = [] := by
  have hall := blankPrefix_append_trimStart cs
  rw [h.trimStart_eq] at hall
  exact List.append_left_eq_self.1 hall

end QueryLint.Text
