/-!
# Reading a text from its front

A reader takes the front of a text and gives a value with the text that is left.  What is left is
never longer than what was given.  `Read` carries that fact, so a loop over a text ends because
every round leaves a shorter one.

* `Read`, with `Read.here`, `Read.afterOne`, `Read.widen` and `Read.map`.
-/

namespace QueryLint.Text

/-- A value and what is left of the text `s`. -/
structure Read (s : List Char) (α : Type) where
  value : α
  rest : List Char
  bound : rest.length ≤ s.length

theorem length_le_self (s : List Char) : s.length ≤ s.length := Nat.le_refl _

theorem length_le_trans {r s t : List Char} (h : r.length ≤ s.length)
    (h' : s.length ≤ t.length) : r.length ≤ t.length := Nat.le_trans h h'

namespace Read

variable {s t : List Char} {α β : Type}

/-- The same result for a longer text with the same rest. -/
def widen (r : Read t α) (h : t.length ≤ s.length) : Read s α :=
  ⟨r.value, r.rest, Nat.le_trans r.bound h⟩

/-- The same rest with another value. -/
def map (f : α → β) (r : Read s α) : Read s β := ⟨f r.value, r.rest, r.bound⟩

/-- A value for which nothing is taken. -/
def here (s : List Char) (a : α) : Read s α := ⟨a, s, length_le_self s⟩

/-- A value for which the first character is taken. -/
def afterOne {c : Char} (cs : List Char) (a : α) : Read (c :: cs) α := ⟨a, cs, Nat.le_succ _⟩

/-- The same result with one more character in front of the text. -/
def widenOne {c : Char} (r : Read s α) : Read (c :: s) α := r.widen (Nat.le_succ _)

end Read

end QueryLint.Text
