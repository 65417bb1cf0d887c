import QueryLint.Json.Numeral
import QueryLint.Json.Text

/-!
# Values that nobody asked for

A member whose key is unknown is passed over.  Its text has to be JSON, but nothing is made of
it: numbers may be of any size, escaped halves of characters need no partner, and values may be
nested to any depth.  The open arrays and objects are kept in a list, innermost first.

* `skipValue`: passes over the text from the start of a value.
* `ignored`: passes over one value.
-/

namespace QueryLint.Json

/-- What an open bracket is closed by. -/
inductive Bracket where
  | array
  | object
  deriving DecidableEq, Repr

namespace Bracket

/-- The character that closes it. -/
def closing : Bracket → Char
  | array => ']'
  | object => '\x7d'

/-- The fault of a text that ends inside. -/
def ended : Bracket → Fault
  | array => .endInArray
  | object => .endInObject

/-- The fault of anything but a comma or the end behind an element. -/
def unseparated : Bracket → Fault
  | array => .expectedCommaOrBracket
  | object => .expectedCommaOrBrace

end Bracket

/-- Passes over the characters of a string up to its closing quote. -/
def skipString (s : List Char) : Except Fault (Read s Unit) :=
  match s with
  | [] => .error .endInString
  | c :: cs =>
    if c = '"' then .ok (.afterOne cs ())
    else if c = '\\' then
      match cs with
      | [] => .error .endInString
      | d :: ds =>
        if d = 'u' then
          match hexQuad ds with
          | .error e => .error e
          | .ok q =>
            have := q.bound
            (skipString q.rest).map fun r => (r.widen q.bound).widenOne.widenOne
        else if (escapeLetter? d).isSome then
          (skipString ds).map fun r => r.widenOne.widenOne
        else .error .invalidEscape
    else if c.toNat < 0x20 then .error .controlCharacter
    else (skipString cs).map (·.widenOne)
termination_by s.length

/-- Passes over a key behind its opening quote, and over the colon. -/
def skipKey : Reader Unit := do
  skipString
  colon

/-- Passes over a number, a string or a word whose first character is `c` and has been
taken. -/
def skipScalar (c : Char) : Reader Unit :=
  if c = 'n' then wordTail ['u', 'l', 'l']
  else if c = 't' then wordTail ['r', 'u', 'e']
  else if c = 'f' then wordTail ['a', 'l', 's', 'e']
  else if c = '"' then skipString
  else if c = '-' then (fun _ => ()) <$> numeral .invalidNumber
  else if c.isDigit then (fun _ => ()) <$> numeralFrom .invalidNumber c
  else Reader.fail .expectedValue

mutual

/-- Passes over the text from the start of a value inside the given brackets.  `s` is what is
left of the text `t`. -/
def skipValue {t : List Char} (inside : List Bracket) (s : List Char)
    (bound : s.length ≤ t.length) : Except Fault (Read t Unit) :=
  match h : skip s with
  | [] => .error .endInValue
  | c :: cs =>
    have hs := length_lt_of_skip h
    if c = '[' then skipFirst .array inside cs (by omega)
    else if c = '\x7b' then skipFirst .object inside cs (by omega)
    else
      match skipScalar c cs with
      | .error e => .error e
      | .ok r =>
        have := r.bound
        skipRest inside r.rest (by omega)
termination_by (s.length, 0)

/-- Passes over the text behind an opening bracket. -/
def skipFirst {t : List Char} (bracket : Bracket) (inside : List Bracket) (s : List Char)
    (bound : s.length ≤ t.length) : Except Fault (Read t Unit) :=
  match h : skip s with
  | [] => .error bracket.ended
  | c :: cs =>
    have hs := length_lt_of_skip h
    if c = bracket.closing then skipRest inside cs (by omega)
    else skipElement bracket inside s bound
termination_by (s.length, 2)

/-- Passes over an element, for an object with its key in front, and over what follows. -/
def skipElement {t : List Char} (bracket : Bracket) (inside : List Bracket) (s : List Char)
    (bound : s.length ≤ t.length) : Except Fault (Read t Unit) :=
  match bracket with
  | .array => skipValue (.array :: inside) s bound
  | .object =>
    match h : skip s with
    | [] => .error .endInObject
    | c :: cs =>
      have hs := length_lt_of_skip h
      if c = '"' then
        match skipKey cs with
        | .error e => .error e
        | .ok r =>
          have := r.bound
          skipValue (.object :: inside) r.rest (by omega)
      else .error .keyNotString
termination_by (s.length, 1)

/-- Passes over the text behind a value inside the given brackets. -/
def skipRest {t : List Char} (inside : List Bracket) (s : List Char)
    (bound : s.length ≤ t.length) : Except Fault (Read t Unit) :=
  match inside with
  | [] => .ok ⟨(), s, bound⟩
  | bracket :: outer =>
    match h : skip s with
    | [] => .error bracket.ended
    | c :: cs =>
      have hs := length_lt_of_skip h
      if c = ',' then skipElement bracket outer cs (by omega)
      else if c = bracket.closing then skipRest outer cs (by omega)
      else .error bracket.unseparated
termination_by (s.length, 0)

end

/-- Passes over one value. -/
def ignored : Reader Unit := fun s => skipValue [] s (Text.length_le_self s)

end QueryLint.Json
