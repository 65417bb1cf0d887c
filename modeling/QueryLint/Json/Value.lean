import QueryLint.Decimal

/-!
# JSON values

The values of JSON documents.  A number that is an integer of 64 bits is kept exactly and every
other number as a double.  An object keeps its members in the order of the text, repeated keys
included; `Json.member?` gives the last one.

* `Json`, `Json.Number`.
* `Json.Number.toString`: the text of a number.
* `Json.sortedMembers`: the members of an object by key, without repetition.
-/

namespace QueryLint

/-- A number. -/
inductive Json.Number where
  /-- A natural number below 2^64. -/
  | natural (n : Nat)
  /-- The negative of a positive number up to 2^63. -/
  | negative (n : Nat)
  /-- Any other number, as the bits of the double it was read as. -/
  | binary (bits : UInt64)
  deriving DecidableEq, Repr

/-- A value. -/
inductive Json where
  | null
  | bool (b : Bool)
  | number (n : Json.Number)
  | string (s : String)
  | array (items : List Json)
  | object (members : List (String × Json))
  deriving Repr

namespace Json

/-- Doubles are written positionally from 10^-5 up to, but not including, 10^16. -/
def layout : DecimalLayout := ⟨-5, 15⟩

/-- The text of a number. -/
def Number.toString : Number → String
  | natural n => n.repr
  | negative n => "-" ++ n.repr
  | binary bits => renderBinary64 layout bits

/-- A natural number as a value. -/
def nat (n : Nat) : Json := .number (.natural n)

/-- A text, or null. -/
def optionalString : Option String → Json
  | some s => .string s
  | none => .null

/-- The member of an object under a key; of several the last. -/
def member? (key : String) : List (String × Json) → Option Json
  | [] => none
  | (k, v) :: ms => (member? key ms).or (if k = key then some v else none)

/-- Puts a member in its place by key, unless the key is there already. -/
def insertMember (key : String) (value : Json) : List (String × Json) → List (String × Json)
  | [] => [(key, value)]
  | m :: ms =>
    if key < m.1 then (key, value) :: m :: ms
    else if key = m.1 then m :: ms
    else m :: insertMember key value ms

/-- The members of an object in the order of their keys; of equal keys the last one stays. -/
def sortedMembers (ms : List (String × Json)) : List (String × Json) :=
  ms.foldr (fun m rest => insertMember m.1 m.2 rest) []

end Json

end QueryLint
