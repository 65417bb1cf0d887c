import QueryLint.Toml.Bare
import QueryLint.Toml.Text

/-!
# Documents of TOML

A document is a list of lines: headers, assignments, comments and empty lines.  A value may go
over several lines if it is an array or a string that can.  Arrays and braces can be nested
only so far, and keys have only so many parts.

* `readKey`, `readValue`, `readStatement`.
* `parse`: the table that a document is.
-/

namespace QueryLint.Toml

/-- The number that the levels of brackets and the parts of a key stay below. -/
def depthLimit : Nat := 80

/-! ## Keys -/

/-- The characters of keys without quotes. -/
def isKeyChar (c : Char) : Bool := c.isAlphanum || c == '_' || c == '-'

/-- One part of a key. -/
def readKeyPart : Reader String := do
  match ← peek with
  | some '"' => return String.ofList (← (do demand ['"']; repeated (lineRound .quote))).flatten
  | some '\x27' =>
    return String.ofList (← (do demand ['\x27']; repeated (lineRound .apostrophe))).flatten
  | _ =>
    let part ← takeWhile isKeyChar
    if part.isEmpty then Reader.fail else return String.ofList part

/-- The parts of a key, with the white space around them. -/
def readKey : Reader (List String) := do
  let parts ← repeated do
    blanks
    let part ← readKeyPart
    blanks
    return (part, ← accept ['.'])
  if parts.length < depthLimit then return parts else Reader.fail

/-! ## Values -/

/-- A value without quotes and brackets.  A blank may separate a date from a time. -/
def readBare : Reader Value := do
  let word ← takeWhile isBare
  if afterDate? word = some [] then
    let time ← Reader.attempt do
      demand [' ']
      let time ← takeWhile isBare
      if isTimeOfDate time then return time else Reader.fail
    match time with
    | some time => return .moment (String.ofList (word ++ ' ' :: time))
    | none => return .moment (String.ofList word)
  else Reader.ofOption (bare? word)

/-- The elements of an array, up to its closing bracket. -/
def readElements (value : Reader Value) : Reader (List Value) := do
  blankLines
  if ← accept [']'] then return []
  else
    repeated do
      let v ← value
      blankLines
      if ← accept [']'] then return (v, false)
      else
        demand [',']
        blankLines
        return (v, !(← accept [']']))

/-- A key, an equals sign and a value. -/
def readPair (value : Reader Value) : Reader (List String × Value) := do
  let key ← readKey
  demand ['=']
  blanks
  return (key, ← value)

/-- The entries of a table between braces, up to the closing one. -/
def readEntries (value : Reader Value) : Reader (List (List String × Value)) := do
  blanks
  if ← accept ['\x7d'] then return []
  else
    repeated do
      let pair ← readPair value
      blanks
      if ← accept ['\x7d'] then return (pair, false)
      else
        demand [',']
        return (pair, true)

/-- A value without brackets. -/
def readFlat : Reader Value := do
  match ← peek with
  | some '"' => return .string (← readString .quote)
  | some '\x27' => return .string (← readString .apostrophe)
  | _ => readBare

/-- A value with at most a given number of levels of brackets. -/
def readValue : Nat → Reader Value
  | 0 => readFlat
  | depth + 1 => do
    if ← accept ['['] then return .array (← readElements (readValue depth))
    else if ← accept ['\x7b'] then
      Reader.ofOption (ofBraces? (← readEntries (readValue depth)))
    else readFlat

/-! ## Lines -/

/-- A header or an assignment, with the rest of its line. -/
def readStatement : Reader Statement := do
  if ← accept ['[', '['] then
    let path ← readKey
    demand [']', ']']
    lineEnd
    return .element path
  else if ← accept ['['] then
    let path ← readKey
    demand [']']
    lineEnd
    return .table path
  else
    let (path, v) ← readPair (readValue (depthLimit - 1))
    lineEnd
    return .assignment path v

/-- All headers and assignments of a document, which may begin with a byte order mark. -/
def readStatements : Reader (List Statement) := do
  let _ ← accept ['\ufeff']
  blankLines
  if ← atEnd then return []
  else
    repeated do
      let statement ← readStatement
      blankLines
      return (statement, !(← atEnd))

/-- The entries of the table that a document is. -/
def parse (text : String) : Option Entries :=
  (readStatements text.toList).bind fun r => ofStatements? r.value

end QueryLint.Toml
