import QueryLint.Json.Text

/-!
# Writing documents

A value is written on one line, or with one member or element to a line and two spaces of
indentation for each level.  Empty arrays and objects stay closed up in both.  Characters are
escaped only where JSON demands it.

* `Json.compact`, `Json.pretty`.
-/

namespace QueryLint.Json

mutual

/-- A value on one line. -/
def compactChars : Json → List Char
  | .null => "null".toList
  | .bool true => "true".toList
  | .bool false => "false".toList
  | .number n => n.toString.toList
  | .string s => printString s
  | .array items => '[' :: compactItems items
  | .object members => '\x7b' :: compactMembers members

/-- The elements of an array and its closing bracket. -/
def compactItems : List Json → List Char
  | [] => [']']
  | [v] => compactChars v ++ [']']
  | v :: w :: vs => compactChars v ++ ',' :: compactItems (w :: vs)

/-- The members of an object and its closing brace. -/
def compactMembers : List (String × Json) → List Char
  | [] => ['\x7d']
  | [(k, v)] => printString k ++ ':' :: compactChars v ++ ['\x7d']
  | (k, v) :: m :: ms => printString k ++ ':' :: compactChars v ++ ',' :: compactMembers (m :: ms)

end

/-- The start of a line with this many levels of indentation. -/
def newLine (depth : Nat) : List Char := '\n' :: List.replicate (2 * depth) ' '

mutual

/-- A value inside `depth` levels of arrays and objects, with a line for each part of it. -/
def prettyChars (depth : Nat) : Json → List Char
  | .array [] => ['[', ']']
  | .object [] => ['\x7b', '\x7d']
  | .array (v :: vs) => '[' :: newLine (depth + 1) ++ prettyItems (depth + 1) (v :: vs)
  | .object (m :: ms) => '\x7b' :: newLine (depth + 1) ++ prettyMembers (depth + 1) (m :: ms)
  | .null => "null".toList
  | .bool true => "true".toList
  | .bool false => "false".toList
  | .number n => n.toString.toList
  | .string s => printString s

/-- The elements of an array at `depth` levels, and its closing bracket. -/
def prettyItems (depth : Nat) : List Json → List Char
  | [] => [']']
  | [v] => prettyChars depth v ++ newLine (depth - 1) ++ [']']
  | v :: w :: vs =>
    prettyChars depth v ++ ',' :: newLine depth ++ prettyItems depth (w :: vs)

/-- The members of an object at `depth` levels, and its closing brace. -/
def prettyMembers (depth : Nat) : List (String × Json) → List Char
  | [] => ['\x7d']
  | [(k, v)] => printString k ++ ':' :: ' ' :: prettyChars depth v ++ newLine (depth - 1) ++ ['\x7d']
  | (k, v) :: m :: ms =>
    printString k ++ ':' :: ' ' :: prettyChars depth v ++ ',' :: newLine depth ++
      prettyMembers depth (m :: ms)

end

/-- A value on one line. -/
def compact (v : Json) : String := String.ofList (compactChars v)

/-- A value with a line for each part of it. -/
def pretty (v : Json) : String := String.ofList (prettyChars 0 v)

end QueryLint.Json
