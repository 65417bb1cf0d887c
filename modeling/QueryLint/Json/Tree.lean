import QueryLint.Json.Record

/-!
# Whole values

A value can be read into memory before its shape is looked at.  Then all of it counts: numbers
have to be in range, escaped halves of characters in pairs, and the nesting of arrays and
objects is limited.

* `readTree`: a value with at most so many levels of arrays and objects.
* `Json.parse`: a document that is one value.
-/

namespace QueryLint.Json

/-- Reads the elements of an array behind its opening bracket, last one first.  `s` is what is
left of the text `t`. -/
def readElements {α : Type} (item : Reader α) {t : List Char} (acc : List α) (s : List Char)
    (bound : s.length ≤ t.length) : Except Fault (Read t (List α)) :=
  match h : skip s with
  | [] => .error .endInArray
  | c :: cs =>
    have := length_lt_of_skip h
    if c = ']' then .ok ⟨acc, cs, length_le_after h bound⟩
    else if c = ',' then
      match skip cs with
      | [] => .error .endInValue
      | d :: _ =>
        if d = ']' then .error .trailingComma
        else
          match item cs with
          | .error e => .error e
          | .ok ⟨a, rest, within⟩ =>
            readElements item (a :: acc) rest (Text.length_le_trans within (length_le_after h bound))
    else .error .expectedCommaOrBracket
termination_by s.length

/-- The elements of an array behind its opening bracket. -/
def readItems {α : Type} (item : Reader α) : Reader (List α) := fun s =>
  match h : skip s with
  | [] => .error .endInArray
  | c :: cs =>
    if c = ']' then .ok ⟨[], cs, length_le_of_skip h⟩
    else
      match item s with
      | .error e => .error e
      | .ok r => (readElements item [r.value] r.rest r.bound).map fun r => r.map List.reverse

/-- A member of an object that is read into memory; the members are kept last one first. -/
def treeMember (item : Reader Json) (ms : List (String × Json)) (key : String) :
    Reader (List (String × Json)) := do
  colon
  let value ← item
  return (key, value) :: ms

/-- A value without arrays and objects, its first character taken. -/
def scalarFrom (c : Char) : Reader Json :=
  if c = 'n' then (fun _ => .null) <$> wordTail ['u', 'l', 'l']
  else if c = 't' then (fun _ => .bool true) <$> wordTail ['r', 'u', 'e']
  else if c = 'f' then (fun _ => .bool false) <$> wordTail ['a', 'l', 's', 'e']
  else if c = '"' then (fun text => .string (String.ofList text)) <$> (stringBody : Reader _)
  else if c = '-' || c.isDigit then .number <$> numberFrom c
  else Reader.fail .expectedValue

/-- A value with at most `levels` levels of arrays and objects. -/
def readTree : Nat → Reader Json
  | 0 => readBy "" fun c =>
    some (if c = '[' || c = '\x7b' then Reader.fail .nestedTooDeep else scalarFrom c)
  | levels + 1 => readBy "" fun c =>
    some
      (if c = '[' then .array <$> readItems (readTree levels)
        else if c = '\x7b' then
          (fun ms => .object ms.reverse) <$> members (treeMember (readTree levels)) []
        else scalarFrom c)

/-- The greatest number of levels of a value. -/
def greatestDepth : Nat := 127

/-- The value that a text is. -/
def parse (text : String) : Except Fault Json := finish (readTree greatestDepth) text.toList

end QueryLint.Json
