import QueryLint.Json.Reader
import QueryLint.Text.Bytes
import QueryLint.Text.Digits

/-!
# Strings in documents

A string stands between double quotes.  Characters below U+0020 have to be escaped, and a
character above U+FFFF that is escaped takes two escapes, one for each half.

* `stringBody`: the characters up to the closing quote.
* `readString`: a string, or the fault of a value that is none.
* `escape`: how a printer writes a character inside quotes.
-/

namespace QueryLint.Json

open Text (hexValue?)

/-- The number that four hexadecimal digits stand for. -/
def hexNumber? (a b c d : Char) : Option Nat := do
  return ((← hexValue? a) * 16 + (← hexValue? b)) * 256 + (← hexValue? c) * 16 + (← hexValue? d)

/-- Four hexadecimal digits.  A text of fewer than four bytes has ended too early. -/
def hexQuad : Reader Nat := fun s =>
  match s with
  | a :: b :: c :: d :: cs =>
    match hexNumber? a b c d with
    | some n => .ok (Text.Read.here cs n).widenOne.widenOne.widenOne.widenOne
    | none => .error .invalidEscape
  | _ => .error (if Text.byteSize s < 4 then .endInString else .invalidEscape)

/-- Whether a number is the first half of a character above U+FFFF. -/
def isHighHalf (n : Nat) : Bool := 0xD800 ≤ n && n ≤ 0xDBFF

/-- Whether a number is the second half of a character above U+FFFF. -/
def isLowHalf (n : Nat) : Bool := 0xDC00 ≤ n && n ≤ 0xDFFF

/-- The character that two halves make. -/
def joinHalves (high low : Nat) : Char :=
  Char.ofNat ((high - 0xD800) * 0x400 + (low - 0xDC00) + 0x10000)

/-- Takes one given character, which has to follow the first half of a character. -/
def pairMark (mark : Char) : Reader Unit := fun s =>
  match s with
  | [] => .error .endInString
  | c :: cs => if c = mark then .ok (.afterOne cs ()) else .error .brokenPair

/-- What follows `\u`. -/
def unicodeEscape : Reader Char := do
  let n ← hexQuad
  if isLowHalf n then Reader.fail .loneSurrogate
  else if isHighHalf n then do
    pairMark '\\'
    pairMark 'u'
    let low ← hexQuad
    if isLowHalf low then return joinHalves n low else Reader.fail .loneSurrogate
  else return Char.ofNat n

/-- The character that a one-letter escape stands for. -/
def escapeLetter? : Char → Option Char
  | '"' => some '"'
  | '\\' => some '\\'
  | '/' => some '/'
  | 'b' => some '\x08'
  | 'f' => some '\x0c'
  | 'n' => some '\n'
  | 'r' => some '\r'
  | 't' => some '\t'
  | _ => none

/-- What follows a backslash. -/
def escaped : Reader Char := fun s =>
  match s with
  | [] => .error .endInString
  | c :: cs =>
    if c = 'u' then (unicodeEscape cs).map (·.widenOne)
    else
      match escapeLetter? c with
      | some d => .ok (.afterOne cs d)
      | none => .error .invalidEscape

/-- The characters of a string up to its closing quote. -/
def stringBody (s : List Char) : Except Fault (Read s (List Char)) :=
  match s with
  | [] => .error .endInString
  | c :: cs =>
    if c = '"' then .ok (.afterOne cs [])
    else if c = '\\' then
      match escaped cs with
      | .error e => .error e
      | .ok d =>
        have := d.bound
        (stringBody d.rest).map fun r => ((r.map (d.value :: ·)).widen d.bound).widenOne
    else if c.toNat < 0x20 then .error .controlCharacter
    else (stringBody cs).map fun r => (r.map (c :: ·)).widenOne
termination_by s.length

/-- How a character is written inside quotes. -/
def escape (c : Char) : List Char :=
  if c = '"' then ['\\', '"']
  else if c = '\\' then ['\\', '\\']
  else if c = '\x08' then ['\\', 'b']
  else if c = '\x0c' then ['\\', 'f']
  else if c = '\n' then ['\\', 'n']
  else if c = '\r' then ['\\', 'r']
  else if c = '\t' then ['\\', 't']
  else if c.toNat < 0x20 then
    ['\\', 'u', '0', '0', Nat.digitChar (c.toNat / 16), Nat.digitChar (c.toNat % 16)]
  else [c]

/-- A string between quotes. -/
def printString (s : String) : List Char := '"' :: (s.toList.flatMap escape ++ ['"'])

end QueryLint.Json
