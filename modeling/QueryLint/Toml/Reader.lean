import QueryLint.Text.Read

/-!
# Readers of TOML

A document that is no TOML has no value, and nothing is said about why.

## Repetition

A reader that is repeated says each time whether to go on.  A round that takes nothing and wants
to go on is a failure; none of the readers here does that, because each takes at least the
character that separates it from the next round.

* `Reader`, and its `Monad` instance.
* `takeWhile`, `accept`, `demand`: fronts of a text.
* `repeated`: repetition.
* `blanks`, `lineEnd`, `blankLines`: what stands between values.
-/

namespace QueryLint.Toml

open Text (Read)

/-- Reads a value from the front of a text. -/
def Reader (α : Type) : Type := (s : List Char) → Option (Read s α)

namespace Reader

variable {α β : Type}

/-- Takes nothing from the text. -/
protected def pure (a : α) : Reader α := fun s => some (.here s a)

/-- Reads on with the second reader where the first one stopped. -/
protected def bind (f : Reader α) (g : α → Reader β) : Reader β := fun s =>
  match f s with
  | none => none
  | some a => (g a.value a.rest).map (·.widen a.bound)

instance : Monad Reader where
  pure := Reader.pure
  bind := Reader.bind

/-- Gives up. -/
def fail : Reader α := fun _ => none

/-- A value that there may be none of. -/
def ofOption : Option α → Reader α
  | some a => pure a
  | none => fail

/-- Tries a reader, and takes nothing if it fails. -/
def attempt (f : Reader α) : Reader (Option α) := fun s =>
  match f s with
  | some r => some (r.map some)
  | none => some (.here s none)

end Reader

/-- The next character, which stays where it is. -/
def peek : Reader (Option Char) := fun s => some (.here s s.head?)

/-- Whether the text has ended. -/
def atEnd : Reader Bool := return (← peek).isNone

/-- Takes a character, whatever it is. -/
def anyChar : Reader Char
  | [] => none
  | c :: cs => some (.afterOne cs c)

/-- Takes as many characters of a kind as there are, up to a number. -/
def takeAtMost (n : Nat) (p : Char → Bool) : Reader (List Char) := fun s =>
  let front := (s.take n).takeWhile p
  some ⟨front, s.drop front.length, by simp⟩

/-- The longest front of characters of a kind. -/
def takeWhile (p : Char → Bool) : Reader (List Char) := fun s =>
  some ⟨s.takeWhile p, s.dropWhile p, (List.dropWhile_suffix p).length_le⟩

/-- Takes a given text if it is next, and says whether it was. -/
def accept (text : List Char) : Reader Bool := fun s =>
  if text.isPrefixOf s then
    some ⟨true, s.drop text.length, by simp⟩
  else some (.here s false)

/-- Takes a given text, which has to be next. -/
def demand (text : List Char) : Reader Unit := do
  if ← accept text then return () else Reader.fail

/-- Repeats a reader until it says that it is the last time. -/
def repeated {α : Type} (round : Reader (α × Bool)) (s : List Char) : Option (Read s (List α)) :=
  match round s with
  | none => none
  | some r =>
    if r.value.2 then
      if h : r.rest.length < s.length then
        (repeated round r.rest).map fun rs =>
          (rs.map (r.value.1 :: ·)).widen (Nat.le_of_lt h)
      else none
    else some (r.map fun v => [v.1])
termination_by s.length

/-- The white space inside a line. -/
def isTomlBlank (c : Char) : Bool := c == ' ' || c == '\t'

/-- The characters that a comment or a string may hold as they are. -/
def isPlain (c : Char) : Bool := c == '\t' || (0x20 ≤ c.toNat && c.toNat ≠ 0x7F)

/-- Passes over white space inside a line. -/
def blanks : Reader Unit := do
  let _ ← takeWhile isTomlBlank

/-- Takes a line break, a line feed with or without a carriage return in front, if it is next. -/
def acceptNewline : Reader Bool := do
  if ← accept ['\r', '\n'] then return true else accept ['\n']

/-- Passes over a comment. -/
def comment : Reader Unit := do
  demand ['#']
  let _ ← takeWhile isPlain

/-- What may follow on a line: white space, a comment, and the end of the line. -/
def lineEnd : Reader Unit := do
  blanks
  if (← peek) = some '#' then comment
  if ← acceptNewline then return ()
  else if ← atEnd then return ()
  else Reader.fail

/-- Passes over one piece of white space, a comment with its line break, or a line break, and
says whether to look for another.  A comment may also end with the text. -/
def blankPiece : Reader (Unit × Bool) := do
  match ← peek with
  | some '#' =>
    comment
    if ← acceptNewline then return ((), true)
    else if ← atEnd then return ((), false)
    else Reader.fail
  | some ' ' | some '\t' =>
    blanks
    return ((), true)
  | _ => return ((), ← acceptNewline)

/-- Passes over white space, comments and line breaks. -/
def blankLines : Reader Unit := do
  let _ ← repeated blankPiece

end QueryLint.Toml
