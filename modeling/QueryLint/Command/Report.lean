import QueryLint.Command.Arguments
import QueryLint.Diagnostic.Format
import QueryLint.Text.Position

/-!
# Reports on a query

What is wrong with a query is reported in one of three forms.  For people, each complaint shows
its severity in colour, the line it is about with a mark under the place, and a hint if there is
one.  For programs, the report is a JSON object, or a log of the dialect of code scanners; the
keys of objects are in order.

* `humanReport`, `jsonReport`, `sarifReport`.
-/

namespace QueryLint.Command

open Text

/-! ## For people -/

/-- A severity in its colour. -/
def colored : Severity → String
  | .error => "\x1b[31m" ++ Severity.error.name ++ "\x1b[0m"
  | .warning => "\x1b[33m" ++ Severity.warning.name ++ "\x1b[0m"

/-- A text, filled up with blanks in front. -/
def padLeft (width : Nat) (s : String) : String :=
  String.ofList (List.replicate (width - s.length) ' ') ++ s

/-- A character, repeated. -/
def repeatChar (n : Nat) (c : Char) : String := String.ofList (List.replicate n c)

/-- The number of marks under a line: one for each byte of the span, but only up to the end of
the line and at least one. -/
def markCount (span : Span) (column : Nat) (line : List Char) : Nat :=
  max 1 (min span.length (byteSize line - (column - 1)))

/-- The line that a span is about, with marks under it. -/
def excerpt (span : Span) (p : Position) (line : List Char) : List String :=
  ["   |",
   padLeft 3 p.line.repr ++ " | " ++ String.ofList line,
   "   | " ++ repeatChar (p.column - 1) ' ' ++ repeatChar (markCount span p.column line) '^']

/-- Where a complaint is, in the query called `name`. -/
def locationLines (name source : String) (span : Span) : List String :=
  let cs := source.toList
  let p := positionAt span.offset cs
  ("  --> " ++ name ++ ":" ++ p.line.repr ++ ":" ++ p.column.repr) ::
    match line? p.line cs with
    | some line => excerpt span p line
    | none => []

/-- The first line of a complaint. -/
def headLine (d : Diagnostic) : String :=
  colored d.severity ++ "[" ++ d.code ++ "]: " ++ d.message

/-- A complaint about the query called `name`. -/
def humanLines (name source : String) (d : Diagnostic) : List String :=
  headLine d ::
    (match d.span with
     | some span => locationLines name source span
     | none => []) ++
    (match d.help with
     | some help => ["   = help: " ++ help]
     | none => []) ++
    [""]

/-- The report on the query called `name`, for people. -/
def humanReport (name source : String) (ds : List Diagnostic) : List String :=
  ds.flatMap (humanLines name source)

/-! ## For programs -/

/-- The report on the query called `name` as an object. -/
def jsonReport (name : String) (ds : List Diagnostic) : Json :=
  let verdict := Verdict.ofDiagnostics ds
  .object
    [("diagnostics", .array (ds.map Diagnostic.toJson)),
     ("errors", .array (verdict.errors.map Json.string)),
     ("file", .string name),
     ("valid", .bool verdict.valid),
     ("warnings", .array (verdict.warnings.map Json.string))]

/-- A complaint about the query called `name`, for code scanners. -/
def sarifResult (name : String) (d : Diagnostic) : Json :=
  .object
    [("level", .string d.severity.name),
     ("locations", .array [.object
       [("physicalLocation", .object
         [("artifactLocation", .object [("uri", .string name)])])]]),
     ("message", .object [("text", .string d.message)]),
     ("ruleId", .string d.code)]

/-- Where the dialect of code scanners is described. -/
def sarifSchema : String :=
  "https://raw.githubusercontent.com/oasis-tcs/sarif-spec/master/Schemata/sarif-schema-2.1.0.json"

/-- The report on the query called `name`, for code scanners. -/
def sarifReport (name : String) (ds : List Diagnostic) : Json :=
  .object
    [("$schema", .string sarifSchema),
     ("runs", .array [.object
       [("results", .array (ds.map (sarifResult name))),
        ("tool", .object
          [("driver", .object
            [("name", .string programName), ("version", .string programVersion)])])]]),
     ("version", .string "2.1.0")]

end QueryLint.Command
