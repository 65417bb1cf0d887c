import QueryLint.Json.Value
import QueryLint.Text.Quoted

/-!
# What can be wrong with a document

A document can be malformed, it can end too early, or it can be well formed and of the wrong
shape.  Each cause is a constructor of `Fault`, and the wording is in `Fault.message`.
-/

namespace QueryLint.Json

/-- What a value was found to be. -/
inductive Found where
  | null
  | bool (b : Bool)
  | number (n : Number)
  | string (s : String)
  | sequence
  | map
  deriving DecidableEq, Repr

/-- The three classes of faults. -/
inductive FaultClass where
  /-- The text is no JSON. -/
  | malformed
  /-- The text is JSON, but not what was asked for. -/
  | misshapen
  /-- The text ends too early. -/
  | truncated
  deriving DecidableEq, Repr

/-- Why a document cannot be read. -/
inductive Fault where
  /-- The text ends where a value is needed. -/
  | endInValue
  | endInObject
  | endInArray
  | endInString
  | expectedValue
  /-- A word other than true, false and null. -/
  | expectedWord
  | expectedColon
  | expectedCommaOrBrace
  | expectedCommaOrBracket
  | keyNotString
  | trailingComma
  | trailingCharacters
  | invalidNumber
  | numberOutOfRange
  | invalidEscape
  | loneSurrogate
  /-- Half of a character above U+FFFF, without the other half. -/
  | brokenPair
  | controlCharacter
  | nestedTooDeep
  | wrongType (found : Found) (expected : String)
  | wrongValue (found : Found) (expected : String)
  | wrongLength (length : Nat) (expected : String)
  | missingField (name : String)
  | duplicateField (name : String)
  /-- A word that is none of the known ones. -/
  | unknownVariant (name : String) (known : List String)
  /-- A value of none of the shapes that the named type can have. -/
  | noVariant (name : String)
  deriving DecidableEq, Repr

/-- The description of a found value. -/
def Found.describe : Found → String
  | null => "null"
  | bool b => "boolean `" ++ (if b then "true" else "false") ++ "`"
  | number (.binary bits) => "floating point `" ++ (Number.binary bits).toString ++ "`"
  | number n => "integer `" ++ n.toString ++ "`"
  | string s => "string " ++ Text.quoted s
  | sequence => "sequence"
  | map => "map"

/-- Alternatives in words: two are joined by "or", more are listed. -/
def alternatives (names : List String) : String :=
  match names.map fun n => "`" ++ n ++ "`" with
  | [a, b] => a ++ " or " ++ b
  | [a] => a
  | ns => "one of " ++ ", ".intercalate ns

namespace Fault

/-- The text of a fault. -/
def message : Fault → String
  | endInValue => "EOF while parsing a value"
  | endInObject => "EOF while parsing an object"
  | endInArray => "EOF while parsing a list"
  | endInString => "EOF while parsing a string"
  | expectedValue => "expected value"
  | expectedWord => "expected ident"
  | expectedColon => "expected `:`"
  | expectedCommaOrBrace => "expected `,` or `\x7d`"
  | expectedCommaOrBracket => "expected `,` or `]`"
  | keyNotString => "key must be a string"
  | trailingComma => "trailing comma"
  | trailingCharacters => "trailing characters"
  | invalidNumber => "invalid number"
  | numberOutOfRange => "number out of range"
  | invalidEscape => "invalid escape"
  | loneSurrogate => "lone leading surrogate in hex escape"
  | brokenPair => "unexpected end of hex escape"
  | controlCharacter => "control character (\\u0000-\\u001F) found while parsing a string"
  | nestedTooDeep => "recursion limit exceeded"
  | wrongType found expected => "invalid type: " ++ found.describe ++ ", expected " ++ expected
  | wrongValue found expected => "invalid value: " ++ found.describe ++ ", expected " ++ expected
  | wrongLength length expected =>
    "invalid length " ++ length.repr ++ ", expected " ++ expected
  | missingField name => "missing field `" ++ name ++ "`"
  | duplicateField name => "duplicate field `" ++ name ++ "`"
  | unknownVariant name known =>
    "unknown variant `" ++ name ++ "`, expected " ++ alternatives known
  | noVariant name => "data did not match any variant of untagged enum " ++ name

/-- The class of a fault. -/
def faultClass : Fault → FaultClass
  | endInValue | endInObject | endInArray | endInString => .truncated
  | wrongType .. | wrongValue .. | wrongLength .. | missingField _ | duplicateField _
  | unknownVariant .. | noVariant _ => .misshapen
  | _ => .malformed

end Fault

end QueryLint.Json
