/-!
# Offsets in bytes

Positions in a query are counted in bytes of its UTF-8 form.  A text is handled as the list of
its characters, and `byteSize` is the length of its UTF-8 form.

* `Span`: a part of a text, by offset and length in bytes.
* `Span.ofParts`: the span of a part, from the text in front of it and the part itself.
-/

namespace QueryLint.Text

/-- The length of a text in bytes of UTF-8. -/
def byteSize : List Char → Nat
  | [] => 0
  | c :: cs => c.utf8Size + byteSize cs

@[simp] theorem byteSize_nil : byteSize [] = 0 := rfl

@[simp] theorem byteSize_cons (c : Char) (cs : List Char) :
    byteSize (c :: cs) = c.utf8Size + byteSize cs := rfl

@[simp] theorem byteSize_append (xs ys : List Char) :
    byteSize (xs ++ ys) = byteSize xs + byteSize ys := by
  induction xs with
  | nil => simp
  | cons c cs ih => simp [ih, Nat.add_assoc]

/-- A part of a text, in bytes. -/
structure Span where
  offset : Nat
  length : Nat
  deriving DecidableEq, Repr

/-- The span of the same part after `base` bytes have been put in front of the text. -/
def Span.shifted (s : Span) (base : Nat) : Span := ⟨s.offset + base, s.length⟩

@[simp] theorem Span.shifted_zero (s : Span) : s.shifted 0 = s := rfl

theorem Span.shifted_shifted (s : Span) (a b : Nat) :
    (s.shifted a).shifted b = s.shifted (a + b) := by
  simp [Span.shifted, Nat.add_assoc]

/-- The span of `part`, in front of which `before` stands. -/
def Span.ofParts (before part : List Char) : Span := ⟨byteSize before, byteSize part⟩

/-- The span that reaches from the start of the first to the end of the second. -/
def Span.upTo (s t : Span) : Span := ⟨s.offset, t.offset + t.length - s.offset⟩

end QueryLint.Text
