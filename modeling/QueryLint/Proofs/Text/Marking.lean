import Mathlib.Data.String.Basic
import QueryLint.Text.Bytes

/-!
# Parts of a text and their spans

A span marks a part of a text if the part stands in the text, the offset of the span is the byte
length of what stands in front, and the length of the span is the byte length of the part.

For a text that is a string this is what slicing the string by bytes needs: both ends of the span
are between characters (`Span.Marks.isValid_offset`, `Span.Marks.isValid_end`), and the slice
between them is the part (`Span.Marks.slice_eq`).

* `Span.Marks`: a span marks a part of a text.
* `Span.slice`: what a span cuts out of a string.
-/

namespace QueryLint.Text

theorem byteSize_eq_utf8Len (cs : List Char) : byteSize cs = String.utf8Len cs := by
  induction cs with
  | nil => rfl
  | cons c cs ih => rw [byteSize_cons, String.utf8Len_cons, ih, Nat.add_comm]

theorem byteSize_toList (s : String) : byteSize s.toList = s.utf8ByteSize := by
  rw [byteSize_eq_utf8Len, String.utf8Len_toList]

/-- Only the empty text has no bytes. -/
theorem byteSize_pos {cs : List Char} (h : cs ≠ []) : 1 ≤ byteSize cs := by
  obtain ⟨c, cs, rfl⟩ := List.exists_cons_of_ne_nil h
  have hc := c.utf8Size_pos
  rw [byteSize_cons]
  omega

/-! ## Characters and bytes -/

/-- A text of ASCII characters. -/
def IsAscii (cs : List Char) : Prop := ∀ c ∈ cs, c.toNat < 0x80

theorem utf8Size_eq_one_iff {c : Char} : c.utf8Size = 1 ↔ c.toNat < 0x80 := by
  rw [Char.utf8Size_eq_one_iff, UInt32.le_iff_toNat_le]
  exact Nat.lt_succ_iff.symm

theorem length_le_byteSize (cs : List Char) : cs.length ≤ byteSize cs := by
  induction cs with
  | nil => exact Nat.le_refl 0
  | cons c cs ih =>
    have hc := c.utf8Size_pos
    rw [List.length_cons, byteSize_cons]
    omega

/-- Only ASCII characters have one byte each. -/
theorem byteSize_eq_length_iff {cs : List Char} : byteSize cs = cs.length ↔ IsAscii cs := by
  induction cs with
  | nil => exact iff_of_true rfl (List.forall_mem_nil _)
  | cons c cs ih =>
    have hc := c.utf8Size_pos
    have hcs := length_le_byteSize cs
    rw [IsAscii, List.forall_mem_cons, ← utf8Size_eq_one_iff, ← IsAscii, ← ih, byteSize_cons,
      List.length_cons]
    omega

/-! ## Spans -/

namespace Span

/-- The span marks `part` in the text `cs`. -/
def Marks (s : Span) (cs part : List Char) : Prop :=
  ∃ before after, cs = before ++ part ++ after ∧ s = .ofParts before part

/-- What the span cuts out of a string. -/
def slice (s : Span) (text : String) : String :=
  String.Pos.Raw.extract text ⟨s.offset⟩ ⟨s.offset + s.length⟩

/-- A span still marks its part when it moves with a text around which more is put. -/
theorem Marks.shifted {s : Span} {cs part : List Char} (h : s.Marks cs part)
    (front back : List Char) :
    (s.shifted (byteSize front)).Marks (front ++ cs ++ back) part := by
  obtain ⟨before, after, rfl, rfl⟩ := h
  refine ⟨front ++ before, after ++ back, by simp only [List.append_assoc], ?_⟩
  rw [Span.shifted, ofParts, ofParts, byteSize_append, Nat.add_comm]

theorem Marks.offset_add_length_le {s : Span} {cs part : List Char} (h : s.Marks cs part) :
    s.offset + s.length ≤ byteSize cs := by
  obtain ⟨before, after, rfl, rfl⟩ := h
  simp only [ofParts, byteSize_append]
  omega

variable {s : Span} {text : String} {part : List Char}

theorem isValid_byteSize {front back : List Char} (h : text.toList = front ++ back) :
    String.Pos.Raw.IsValid text ⟨byteSize front⟩ := by
  rw [String.Pos.Raw.isValid_iff_exists_take_toList]
  refine ⟨front.length, ?_⟩
  rw [h, List.take_left, byteSize_eq_utf8Len, String.utf8ByteSize_ofList]

/-- The span begins between two characters. -/
theorem Marks.isValid_offset (h : s.Marks text.toList part) :
    String.Pos.Raw.IsValid text ⟨s.offset⟩ := by
  obtain ⟨before, after, htext, rfl⟩ := h
  exact isValid_byteSize (htext.trans (List.append_assoc before part after))

/-- The span ends between two characters. -/
theorem Marks.isValid_end (h : s.Marks text.toList part) :
    String.Pos.Raw.IsValid text ⟨s.offset + s.length⟩ := by
  obtain ⟨before, after, htext, rfl⟩ := h
  have hend : byteSize before + byteSize part = byteSize (before ++ part) :=
    (byteSize_append before part).symm
  rw [ofParts, hend]
  exact isValid_byteSize htext

/-- The slice of a string by a span is the part that the span marks. -/
theorem Marks.slice_eq (h : s.Marks text.toList part) : s.slice text = String.ofList part := by
  obtain ⟨before, after, htext, rfl⟩ := h
  rw [slice, ofParts, ← String.ofList_toList (s := text), htext, byteSize_eq_utf8Len,
    byteSize_eq_utf8Len]
  exact String.extract_of_valid before part after

end Span

end QueryLint.Text
