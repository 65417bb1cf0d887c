import QueryLint.Command.Request
import QueryLint.Files.Tree
import QueryLint.Toml.Document

/-!
# Configuration

A configuration file says what the arguments of `check` leave out.  It is the file that an
argument names, or else the one in the nearest directory, from the working directory outwards, at
whose place for it anything is found.  What is found but cannot be used is never passed over.

* `Config`, `Config.ofText?`.
* `nearestConfig?`: the file that applies when no argument names one.
* `Config.complete`: fills in, field by field, what the arguments leave out.
-/

namespace QueryLint.Command

/-- A configuration. -/
structure Config where
  schema : Option String
  files : List String
  /-- The word for a format, as it is written. -/
  format : Option String
  disable : List String
  deriving DecidableEq, Repr

/-- Why a configuration file cannot be used. -/
inductive ConfigFailure where
  | unreadable (failure : ReadFailure)
  /-- The file is no TOML, or a field has a value of the wrong kind. -/
  | malformed
  deriving DecidableEq, Repr

/-- The text of a failure. -/
def ConfigFailure.message : ConfigFailure → String
  | unreadable failure => failure.message
  | malformed => "TOML parse error"

namespace Config

open Toml (Entries Value)

/-- The configuration that says nothing. -/
def empty : Config := ⟨none, [], none, []⟩

/-- A text, if there is a value. -/
def asString? : Option Value → Option (Option String)
  | none => some none
  | some (.string s) => some (some s)
  | some _ => none

/-- The texts of an array; no value stands for none. -/
def asStrings? : Option Value → Option (List String)
  | none => some []
  | some (.array vs) =>
    vs.mapM fun
      | .string s => some s
      | _ => none
  | some _ => none

/-- The configuration that the entries of a document make; unknown keys are passed over. -/
def ofEntries? (es : Entries) : Option Config := do
  return {
    schema := ← asString? (es.lookup "schema")
    files := ← asStrings? (es.lookup "files")
    format := ← asString? (es.lookup "format")
    disable := ← asStrings? (es.lookup "disable") }

/-- The configuration that a text is. -/
def ofText? (text : String) : Option Config := (Toml.parse text).bind ofEntries?

/-- The format that a configuration asks for; a word that is none asks for nothing special. -/
def outputFormat (c : Config) : Format := (c.format.bind Format.ofName?).getD .human

/-- The arguments, with everything filled in that they leave out and the configuration says. -/
def complete (c : Config) (o : CheckOptions) : CheckOptions where
  files := if o.files.isEmpty then c.files else o.files
  query := o.query
  schema := o.schema.or c.schema
  config := o.config
  disable := if o.disable.isEmpty then c.disable else o.disable
  format := some (o.format.getD c.outputFormat)

/-- Reads a configuration file. -/
def read (path : String) : Script (Except ConfigFailure Config) := do
  match ← Script.textOf path with
  | .error failure => return .error (.unreadable failure)
  | .ok text =>
    match ofText? text with
    | some c => return .ok c
    | none => return .error .malformed

end Config

/-! ## The nearest file -/

/-- The name of a configuration file. -/
def configName : String := "sqlscout.toml"

/-- The fronts of a list, the longest first. -/
def fronts {α : Type} : List α → List (List α)
  | [] => [[]]
  | a :: as => (fronts as).map (a :: ·) ++ [[]]

/-- The places of configuration files, the nearest first. -/
def configPaths (workingDirectory : String) : List String :=
  let names := (FileTree.parts workingDirectory.toList).filter fun p => !p.isEmpty
  (fronts (names.map String.ofList)).map fun ns => FileTree.pathOf (ns ++ [configName])

/-- The first of some paths at which anything is found. -/
def firstPresent : List String → Script (Option String)
  | [] => return none
  | path :: paths => do
    if ← Script.isPresent path then return some path else firstPresent paths

/-- The nearest configuration file, if one is found. -/
def nearestConfig? : Script (Option String) := do
  firstPresent (configPaths (← Script.workingDirectory))

end QueryLint.Command
