import QueryLint.Files.Script
import QueryLint.Schema.DocumentReader

/-!
# Loading a schema from a file

A schema is loaded from one document.  There are three ways in which that can fail: nothing is
at the path, what is there cannot be read as a text, or the text is no schema document.

* `LoadFailure`, with its `message`, `code`, `help` and `cause`.
* `load`: the declarations of a file.
-/

namespace QueryLint.Schema

/-- Why a schema cannot be loaded. -/
inductive LoadFailure where
  | notFound (path : String)
  | unreadable (path : String) (failure : ReadFailure)
  | malformed (fault : Json.Fault)

namespace LoadFailure

/-- The text of a failure. -/
def message : LoadFailure → String
  | notFound path => "schema file not found: " ++ path
  | unreadable path _ => "failed to read schema file " ++ path
  | malformed fault => "invalid schema document: " ++ fault.message

/-- The code of a failure. -/
def code : LoadFailure → String
  | notFound _ => "sqlscout::schema::not_found"
  | unreadable .. => "sqlscout::schema::io"
  | malformed _ => "sqlscout::schema::parse"

/-- What can be done about a failure. -/
def help : LoadFailure → Option String
  | notFound _ => some "pass an existing JSON schema file with --schema"
  | unreadable .. => none
  | malformed _ => some "expected a JSON object with a `tables` mapping"

/-- What is behind a failure. -/
def cause : LoadFailure → Option String
  | notFound _ => none
  | unreadable _ failure => some failure.message
  | malformed fault => some fault.message

end LoadFailure

/-- The declarations of a file. -/
def load (path : String) : Script (Except LoadFailure Builder) := do
  if !(← Script.isPresent path) then return .error (.notFound path)
  else
    match ← Script.textOf path with
    | .error failure => return .error (.unreadable path failure)
    | .ok text =>
      match Builder.empty.addText text with
      | .error fault => return .error (.malformed fault)
      | .ok b => return .ok b

end QueryLint.Schema
