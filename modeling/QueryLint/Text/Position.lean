import QueryLint.Text.Bytes

/-!
# Lines and columns

Readers of a report look for a place in a text by its line and its column, both counted from
one.  Columns count characters.  A line ends in a line feed, with or without a carriage return in
front, and the text after the last line feed is a line only if there is any.

* `positionAt`: the position of the character at a byte offset.
* `linesOf`: the lines of a text.
-/

namespace QueryLint.Text

/-- A place in a text. -/
structure Position where
  line : Nat
  column : Nat
  deriving DecidableEq, Repr

namespace Position

/-- The first place in a text. -/
def start : Position := ⟨1, 1⟩

/-- The place after a character. -/
def next (p : Position) (c : Char) : Position :=
  if c = '\n' then ⟨p.line + 1, 1⟩ else ⟨p.line, p.column + 1⟩

end Position

/-- The characters that begin before a byte offset. -/
def charsBefore (offset : Nat) : List Char → List Char
  | [] => []
  | c :: cs => if offset = 0 then [] else c :: charsBefore (offset - c.utf8Size) cs

@[simp] theorem charsBefore_zero (cs : List Char) : charsBefore 0 cs = [] := by
  cases cs with
  | nil => rfl
  | cons c cs => rw [charsBefore, if_pos rfl]

/-- The characters before the offset of a part are those in front of it. -/
theorem charsBefore_append (front back : List Char) :
    charsBefore (byteSize front) (front ++ back) = front := by
  induction front with
  | nil => exact charsBefore_zero back
  | cons c cs ih =>
    have hc := c.utf8Size_pos
    rw [byteSize_cons, List.cons_append, charsBefore, if_neg (by omega), Nat.add_sub_cancel_left,
      ih]

/-- The position of the character at a byte offset. -/
def positionAt (offset : Nat) (cs : List Char) : Position :=
  (charsBefore offset cs).foldl Position.next .start

/-- The position behind a front is found by reading the front. -/
theorem positionAt_append (front back : List Char) :
    positionAt (byteSize front) (front ++ back) = front.foldl Position.next .start := by
  rw [positionAt, charsBefore_append]

/-- The lines of a text with their line breaks. -/
def brokenLines : List Char → List (List Char)
  | [] => []
  | c :: cs =>
    if c = '\n' then [c] :: brokenLines cs
    else
      match brokenLines cs with
      | [] => [[c]]
      | line :: lines => (c :: line) :: lines

/-- A line without its line break. -/
def withoutBreak (line : List Char) : List Char :=
  if line.getLast? = some '\n' then
    let line := line.dropLast
    if line.getLast? = some '\r' then line.dropLast else line
  else line

/-- The lines of a text. -/
def linesOf (cs : List Char) : List (List Char) := (brokenLines cs).map withoutBreak

/-- A line of a text, if it has that many. -/
def line? (n : Nat) (cs : List Char) : Option (List Char) := (linesOf cs)[n - 1]?

end QueryLint.Text
