import Mathlib.Data.String.Basic

/-!
# The order of texts by their bytes

Names are sorted by the bytes of their UTF-8 form, and `<` on texts compares characters by their
code points.  The two orders are one: of two characters the lower one has the lower bytes, which
differ before either of them ends, so it does not matter what stands behind.

* `bytes`: the UTF-8 form of a text.
* `Below`: one run of bytes is lower than another one, whatever stands behind them.
* `below_utf8EncodeChar`: the lower of two characters is below the other one.
* `bytes_lt_iff`, `bytes_le_iff`: texts are ordered as their bytes are.
-/

namespace QueryLint.Text

/-- The bytes of a text in UTF-8. -/
def bytes (s : String) : List UInt8 := s.toByteArray.data.toList

theorem bytes_eq_flatMap (s : String) : bytes s = s.toList.flatMap String.utf8EncodeChar := by
  rw [bytes, ← String.utf8Encode_toList, List.utf8Encode, List.toList_data_toByteArray]

/-- Whatever stands behind them, the first run of bytes is lower than the second. -/
def Below (xs ys : List UInt8) : Prop := ∀ us vs, xs ++ us < ys ++ vs

variable {a b : ℕ} {xs ys : List UInt8}

theorem Below.cons_of_lt (hb : b < 256) (h : a < b) :
    Below (UInt8.ofNat a :: xs) (UInt8.ofNat b :: ys) := by
  intro us vs
  have hlt : UInt8.ofNat a < UInt8.ofNat b := by
    rw [UInt8.lt_iff_toNat_lt, UInt8.toNat_ofNat', UInt8.toNat_ofNat', Nat.mod_eq_of_lt hb,
      Nat.mod_eq_of_lt (h.trans hb)]
    exact h
  exact List.cons_lt_cons_iff.2 (Or.inl hlt)

/-- If the first bytes are equal, the rest decides. -/
theorem Below.cons_of_le (hb : b < 256) (h : a ≤ b) (hrest : a = b → Below xs ys) :
    Below (UInt8.ofNat a :: xs) (UInt8.ofNat b :: ys) := by
  rcases h.lt_or_eq with hlt | rfl
  · exact Below.cons_of_lt hb hlt
  · intro us vs
    exact List.cons_lt_cons_iff.2 (Or.inr ⟨rfl, hrest rfl us vs⟩)

theorem toNat_val_lt (c : Char) : c.val.toNat < 0x110000 := by
  have h := c.valid
  simp only [UInt32.isValidChar, Nat.isValidChar] at h
  omega

/-- The lower of two characters has the lower bytes. -/
theorem below_utf8EncodeChar {c d : Char} (h : c < d) :
    Below (String.utf8EncodeChar c) (String.utf8EncodeChar d) := by
  have hlt : c.val.toNat < d.val.toNat := h
  have hmax := toNat_val_lt d
  simp only [String.utf8EncodeChar]
  generalize c.val.toNat = m at hlt ⊢
  generalize d.val.toNat = n at hlt hmax ⊢
  split_ifs
  -- The lower character is not the longer one.
  all_goals try omega
  -- The first byte tells how many follow, so it is lower unless both are of one length.  Then the
  -- bytes are compared one by one, and they cannot all be equal.
  all_goals
    repeat refine Below.cons_of_le (by omega) (by omega) fun _ => ?_
    omega

/-- The lower of two texts has the lower bytes. -/
theorem flatMap_utf8EncodeChar_lt {s t : List Char} (h : s < t) :
    s.flatMap String.utf8EncodeChar < t.flatMap String.utf8EncodeChar := by
  induction h with
  | @nil d t =>
    obtain ⟨x, xs, hx⟩ := List.exists_cons_of_ne_nil (String.utf8EncodeChar_ne_nil (c := d))
    rw [List.flatMap_nil, List.flatMap_cons, hx]
    exact List.nil_lt_cons _ _
  | cons _ ih =>
    rw [List.flatMap_cons, List.flatMap_cons]
    exact List.append_left_lt ih
  | rel hlt =>
    rw [List.flatMap_cons, List.flatMap_cons]
    exact below_utf8EncodeChar hlt _ _

/-- Texts are ordered as their bytes are. -/
theorem bytes_lt_iff {s t : String} : bytes s < bytes t ↔ s < t := by
  have hmono : ∀ {s t : String}, s < t → bytes s < bytes t := by
    intro s t h
    rw [bytes_eq_flatMap, bytes_eq_flatMap]
    exact flatMap_utf8EncodeChar_lt (String.lt_iff.1 h)
  refine ⟨fun h => ?_, hmono⟩
  rcases lt_trichotomy s t with hlt | rfl | hgt
  · exact hlt
  · exact absurd h (List.lt_irrefl _)
  · exact absurd h (List.lt_asymm (hmono hgt))

theorem bytes_le_iff {s t : String} : bytes s ≤ bytes t ↔ s ≤ t := by
  rw [← List.not_lt, bytes_lt_iff, not_lt]

end QueryLint.Text
