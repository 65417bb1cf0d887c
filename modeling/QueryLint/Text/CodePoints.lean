/-!
# Sets of code points

The Unicode properties that the library needs are finite unions of closed ranges of code
points.  A property is kept as the ascending list of its ranges, `Ranges`, and membership is
a search of that list.

* `Ranges.contains`: a code point lies in one of the ranges.
* `forall_of_toNat_mem`: what holds at some code points holds of their characters.
-/

namespace QueryLint.Text

/-- Closed ranges of code points, first and last, in ascending order. -/
abbrev Ranges := List (Nat × Nat)

/-- Whether the code point `n` lies in one of the ranges. -/
def Ranges.contains (rs : Ranges) (n : Nat) : Bool :=
  rs.any fun r => decide (r.1 ≤ n) && decide (n ≤ r.2)

/-- What holds of the characters at some code points holds of every character with one of these
code points. -/
theorem forall_of_toNat_mem {P : Char → Prop} {codes : List Nat}
    (h : ∀ n ∈ codes, P (Char.ofNat n)) {c : Char} (hc : c.toNat ∈ codes) : P c := by
  have hchar := h c.toNat hc
  rwa [Char.ofNat_toNat] at hchar

end QueryLint.Text
