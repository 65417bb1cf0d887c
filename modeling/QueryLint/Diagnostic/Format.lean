import QueryLint.Diagnostic
import QueryLint.Json.Printer
import QueryLint.Json.Tree

/-!
# Complaints as JSON

Reports that programs read hold complaints as objects with their keys in order.  They can be
read back; a complaint may then also be an array of its five fields, and a kind or a severity
may be an object with one member and nothing in it.

* `Diagnostic.toJson`, `Diagnostic.ofJson?`, `Diagnostic.listOfJson?`.
-/

namespace QueryLint

open Json (Fault Found)

/-- What a value is, for the text of a fault. -/
def Json.found? : Json → Found
  | .null => .null
  | .bool b => .bool b
  | .number n => .number n
  | .string s => .string s
  | .array _ => .sequence
  | .object _ => .map

/-- The fault of a value of the wrong shape. -/
def Json.unlike {α : Type} (v : Json) (expected : String) : Except Fault α :=
  .error (.wrongType v.found? expected)

/-- A text. -/
def Json.asString : Json → Except Fault String
  | .string s => .ok s
  | v => v.unlike "a string"

/-- A count of 64 bits. -/
def Json.asCount : Json → Except Fault Nat
  | .number (.natural n) => .ok n
  | .number (.negative n) => .error (.wrongValue (.number (.negative n)) "usize")
  | v => v.unlike "usize"

/-- A value, or nothing for null. -/
def Json.asOptional {α : Type} (f : Json → Except Fault α) : Json → Except Fault (Option α)
  | .null => .ok none
  | v => (f v).map some

/-- Chooses among words. -/
def Json.chooseWord {α : Type} (choices : List String) (choose : String → Option α) (s : String) :
    Except Fault α :=
  match choose s with
  | some a => .ok a
  | none => .error (.unknownVariant s choices)

/-- One of some words, which may stand as the only key of an object over null. -/
def Json.asWord {α : Type} (choices : List String) (choose : String → Option α) :
    Json → Except Fault α
  | .string s => Json.chooseWord choices choose s
  | .object ms =>
    match Json.sortedMembers ms with
    | [(key, content)] => do
      let a ← Json.chooseWord choices choose key
      match content with
      | .null => return a
      | v => v.unlike "unit"
    | _ => .error (.wrongValue .map "map with a single key")
  | v => v.unlike "string or map"

/-- Reads a member into a draft where its key is known, and passes over it elsewhere. -/
def Json.readInto {δ : Type} (fields : List (String × (δ → Json → Except Fault δ))) (draft : δ)
    (member : String × Json) : Except Fault δ :=
  match fields.lookup member.1 with
  | some f => f draft member.2
  | none => .ok draft

/-- Reads a record: an object in the order of its keys, or an array of all fields. -/
def Json.asRecord {δ : Type} (name : String)
    (fields : List (String × (δ → Json → Except Fault δ))) (blank : δ) : Json → Except Fault δ
  | .object ms => (Json.sortedMembers ms).foldlM (Json.readInto fields) blank
  | .array vs => do
    let draft ← (fields.zip vs).foldlM (fun d p => p.1.2 d p.2) blank
    if vs.length < fields.length then
      .error (.wrongLength vs.length
        ("struct " ++ name ++ " with " ++ fields.length.repr ++ " elements"))
    else if fields.length < vs.length then
      .error (.wrongLength vs.length "fewer elements in array")
    else return draft
  | v => v.unlike ("struct " ++ name)

open Text (Span)

/-- A span as JSON. -/
def Text.Span.toJson (s : Span) : Json :=
  .object [("length", Json.nat s.length), ("offset", Json.nat s.offset)]

/-- The offset and the length of a span, as far as they have been read. -/
abbrev SpanDraft := Option Nat × Option Nat

/-- The fields of a span. -/
def spanFields : List (String × (SpanDraft → Json → Except Fault SpanDraft)) :=
  [("offset", fun d v => return (some (← v.asCount), d.2)),
   ("length", fun d v => return (d.1, some (← v.asCount)))]

/-- Reads a span. -/
def Text.Span.ofJson? (v : Json) : Except Fault Span := do
  let d ← Json.asRecord "Span" spanFields (none, none) v
  return ⟨← Json.required "offset" d.1, ← Json.required "length" d.2⟩

/-- Reads a kind of complaint. -/
def DiagnosticKind.ofJson? : Json → Except Fault DiagnosticKind :=
  Json.asWord (all.map tag) ofTag?

/-- Reads a severity. -/
def Severity.ofJson? : Json → Except Fault Severity := Json.asWord (all.map name) ofName?

namespace Diagnostic

/-- A complaint as JSON. -/
def toJson (d : Diagnostic) : Json :=
  .object
    [("help", Json.optionalString d.help),
     ("kind", .string d.kind.tag),
     ("message", .string d.message),
     ("severity", .string d.severity.name),
     ("span", match d.span with
       | some s => s.toJson
       | none => .null)]

/-- The fields of a complaint that have been read. -/
structure Draft where
  kind : Option DiagnosticKind
  severity : Option Severity
  message : Option String
  span : Option Span
  help : Option String
  deriving Repr

/-- The fields of a complaint. -/
def fields : List (String × (Draft → Json → Except Fault Draft)) :=
  [("kind", fun d v => return { d with kind := some (← DiagnosticKind.ofJson? v) }),
   ("severity", fun d v => return { d with severity := some (← Severity.ofJson? v) }),
   ("message", fun d v => return { d with message := some (← v.asString) }),
   ("span", fun d v => return { d with span := ← v.asOptional Span.ofJson? }),
   ("help", fun d v => return { d with help := ← v.asOptional Json.asString })]

/-- Reads a complaint. -/
def ofJson? (v : Json) : Except Fault Diagnostic := do
  let d ← Json.asRecord "Diagnostic" fields ⟨none, none, none, none, none⟩ v
  return ⟨← Json.required "kind" d.kind, ← Json.required "severity" d.severity,
    ← Json.required "message" d.message, d.span, d.help⟩

/-- Reads a list of complaints. -/
def listOfJson? : Json → Except Fault (List Diagnostic)
  | .array vs => vs.mapM ofJson?
  | v => v.unlike "a sequence"

end Diagnostic

/-- A verdict as JSON, with its keys in order. -/
def Verdict.toJson (v : Verdict) : Json :=
  .object
    [("errors", .array (v.errors.map Json.string)), ("valid", .bool v.valid),
     ("warnings", .array (v.warnings.map Json.string))]

end QueryLint
