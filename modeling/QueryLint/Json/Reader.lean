import QueryLint.Json.Fault
import QueryLint.Text.Read

/-!
# Readers

A document is read from left to right, and the first thing that is wrong with it is the answer,
whether the text is no JSON there or the value is not of the shape that is wanted.  A reader
takes the text from some point on and gives a value with the text that is left.

* `Reader`, and its `Monad` instance.
* `Reader.Yields`: a reader gives a value and a rest; `Reader.Yields.bind` composes.
* `skip`: JSON's own white space.
* `finish`: nothing but white space may follow a document.
-/

namespace QueryLint.Json

export QueryLint.Text (Read)

/-- Reads a value from the front of a text. -/
def Reader (α : Type) : Type := (s : List Char) → Except Fault (Read s α)

namespace Reader

variable {α β : Type}

/-- Takes nothing from the text. -/
protected def pure (a : α) : Reader α := fun s => .ok (.here s a)

/-- Reads on with the second reader where the first one stopped. -/
protected def bind (f : Reader α) (g : α → Reader β) : Reader β := fun s =>
  match f s with
  | .error e => .error e
  | .ok a =>
    (g a.value a.rest).map (·.widen a.bound)

instance : Monad Reader where
  pure := Reader.pure
  bind := Reader.bind

/-- Gives up. -/
def fail (e : Fault) : Reader α := fun _ => .error e

/-- The reader takes `s` up to `rest` and gives `a`. -/
def Yields (f : Reader α) (s : List Char) (a : α) (rest : List Char) : Prop :=
  ∃ h, f s = .ok ⟨a, rest, h⟩

theorem Yields.pure (a : α) (s : List Char) : Yields (Pure.pure a : Reader α) s a s :=
  ⟨Nat.le_refl _, rfl⟩

theorem Yields.bind {f : Reader α} {g : α → Reader β} {s r t : List Char} {a : α} {b : β}
    (hf : f.Yields s a r) (hg : (g a).Yields r b t) : Yields (f >>= g) s b t := by
  obtain ⟨h₁, e₁⟩ := hf
  obtain ⟨h₂, e₂⟩ := hg
  refine ⟨Nat.le_trans h₂ h₁, ?_⟩
  show Reader.bind f g s = _
  simp [Reader.bind, e₁, e₂, Except.map, Text.Read.widen]

end Reader

/-- The white space of JSON: space, tab, line feed and carriage return. -/
def isJsonBlank (c : Char) : Bool := c == ' ' || c == '\t' || c == '\n' || c == '\r'

/-- A text without the white space in front. -/
def skip (s : List Char) : List Char := s.dropWhile isJsonBlank

theorem length_skip_le (s : List Char) : (skip s).length ≤ s.length :=
  (List.dropWhile_suffix isJsonBlank).length_le

theorem length_lt_of_skip {s cs : List Char} {c : Char} (h : skip s = c :: cs) :
    cs.length < s.length := by
  have := length_skip_le s
  rw [h] at this
  exact this

theorem length_le_of_skip {s cs : List Char} {c : Char} (h : skip s = c :: cs) :
    cs.length ≤ s.length := Nat.le_of_lt (length_lt_of_skip h)

theorem length_le_after {s cs t : List Char} {c : Char} (h : skip s = c :: cs)
    (bound : s.length ≤ t.length) : cs.length ≤ t.length :=
  Nat.le_trans (length_le_of_skip h) bound

/-- The rest of a word whose first letter has been taken. -/
def wordTail : List Char → Reader Unit
  | [] => pure ()
  | w :: ws => fun s =>
    match s with
    | [] => .error .endInValue
    | c :: cs =>
      if c = w then (wordTail ws cs).map (·.widenOne)
      else .error .expectedWord

/-- The colon behind a key. -/
def colon : Reader Unit := fun s =>
  match h : skip s with
  | ':' :: cs => .ok ⟨(), cs, length_le_of_skip h⟩
  | [] => .error .endInObject
  | _ => .error .expectedColon

/-- Reads a whole document. -/
def finish {α : Type} (f : Reader α) (s : List Char) : Except Fault α :=
  match f s with
  | .error e => .error e
  | .ok r => if (skip r.rest).isEmpty then .ok r.value else .error .trailingCharacters

end QueryLint.Json
