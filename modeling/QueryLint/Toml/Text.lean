import QueryLint.Text.Digits
import QueryLint.Toml.Reader

/-!
# Strings of TOML

A string stands between double quotes or between apostrophes, on one line, or between three of
them each, over several lines.  Only between double quotes a backslash begins an escape.  In a
string over several lines the line break behind the opening is dropped, a backslash at the end
of a line drops everything up to the next visible character, and up to two marks in a row are
part of the string.

* `Mark`: the two kinds of strings.
* `lineRound`, `blockRound`: a piece of a string of either form.
* `readString`.
-/

namespace QueryLint.Toml

open Text (hexValue? ofDigits)

/-- What a string stands between. -/
inductive Mark where
  | quote
  | apostrophe
  deriving DecidableEq, Repr

namespace Mark

/-- The character of a mark. -/
def char : Mark → Char
  | quote => '"'
  | apostrophe => '\x27'

/-- Whether a character begins an escape. -/
def escapes (m : Mark) (c : Char) : Bool := m == quote && c == '\\'

end Mark

/-- The character that hexadecimal digits stand for, if it is one that a text can hold. -/
def codePoint? (ds : List Char) : Option Char := do
  let n := ofDigits 16 (← ds.mapM hexValue?)
  if n.isValidChar then return Char.ofNat n else none

/-- The character that a one-letter escape stands for. -/
def escapeLetter? : Char → Option Char
  | '"' => some '"'
  | '\\' => some '\\'
  | 'b' => some '\x08'
  | 'f' => some '\x0c'
  | 'n' => some '\n'
  | 'r' => some '\r'
  | 't' => some '\t'
  | _ => none

/-- A character given by a number of hexadecimal digits. -/
def codePoint (count : Nat) : Reader Char := do
  let ds ← takeAtMost count fun _ => true
  if ds.length = count then Reader.ofOption (codePoint? ds) else Reader.fail

/-- What follows a backslash. -/
def escaped : Reader Char := do
  let c ← anyChar
  if c = 'u' then codePoint 4
  else if c = 'U' then codePoint 8
  else Reader.ofOption (escapeLetter? c)

/-- A piece of a string on one line, and whether the string goes on. -/
def lineRound (m : Mark) : Reader (List Char × Bool) := do
  let c ← anyChar
  if c = m.char then return ([], false)
  else if m.escapes c then return ([← escaped], true)
  else if isPlain c then return ([c], true)
  else Reader.fail

/-- A piece of white space, and whether there was any. -/
def foldPiece : Reader (Unit × Bool) := do
  let front ← takeWhile isTomlBlank
  return ((), (← acceptNewline) || !front.isEmpty)

/-- The end of a line with all white space behind it. -/
def fold : Reader Unit := do
  blanks
  if ← acceptNewline then
    let _ ← repeated foldPiece
  else Reader.fail

/-- A piece of a string over several lines, and whether the string goes on. -/
def blockRound (m : Mark) : Reader (List Char × Bool) := do
  let marks ← takeAtMost 5 (· = m.char)
  if 3 ≤ marks.length then return (marks.drop 3, false)
  else if !marks.isEmpty then return (marks, true)
  else if ← acceptNewline then return (['\n'], true)
  else if m = .apostrophe then lineRound m
  else if (← Reader.attempt (do demand ['\\']; fold)).isSome then return ([], true)
  else lineRound m

/-- A string, from its opening mark on. -/
def readString (m : Mark) : Reader String := do
  if ← accept (List.replicate 3 m.char) then
    let _ ← acceptNewline
    return String.ofList (← repeated (blockRound m)).flatten
  else
    demand [m.char]
    return String.ofList (← repeated (lineRound m)).flatten

end QueryLint.Toml
