import QueryLint.Command.Outcome
import QueryLint.Command.Records
import QueryLint.Command.Report
import QueryLint.Glob.Expand

/-!
# Checking queries from the command line

The queries are the one on the command line and the files that the patterns lead to.  All of
them are read before any of them is reported on, so a run that cannot go on reports nothing.  A
schema that cannot be loaded only takes away the checks that need it.

* `Source`, `Checked`.
* `gatherSources`: the queries.
* `report`: the events that checking them leads to.
* `runCheck`: all of it.
-/

namespace QueryLint.Command

open Schema (Model)

/-- A query with its name. -/
structure Source where
  name : String
  text : String
  deriving DecidableEq, Repr

/-- A query with what is wrong with it. -/
structure Checked where
  source : Source
  diagnostics : List Diagnostic
  deriving DecidableEq, Repr

/-! ## The schema -/

/-- The schema that is used, if any, and what happens on the way. -/
def loadOptional (quiet : Bool) : Option String → Script (List Event × Option Model)
  | none => return ([], none)
  | some path => do
    match ← Schema.load path with
    | .error failure => return ([.withoutSchema failure], none)
    | .ok b =>
      let count := b.findings.length
      let warning := "Warning: Schema loading produced " ++ count.repr ++ " warnings"
      return (recordEvents b.records ++
        (if count = 0 || quiet then [] else [.notice warning]), some b.model)

/-! ## The queries -/

/-- The name of the query on the command line. -/
def inlineName : String := "<query>"

/-- The files that patterns lead to.  What has no asterisk is the path of a file. -/
def expandPatterns : List String → Script (Except Fatal (List String))
  | [] => return .ok []
  | pattern :: patterns => do
    let paths ←
      if pattern.contains '*' then Glob.expand pattern else pure (.ok [pattern])
    match paths with
    | .error fault => return .error (.pattern fault)
    | .ok paths => return (← expandPatterns patterns).map (paths ++ ·)

/-- Reads files. -/
def readSources : List String → Script (Except Fatal (List Source))
  | [] => return .ok []
  | path :: paths => do
    match ← Script.textOf path with
    | .error failure => return .error (.unreadable failure)
    | .ok text => return (← readSources paths).map (⟨path, text⟩ :: ·)

/-- The queries, the one on the command line first. -/
def gatherSources (o : CheckOptions) : Script (Except Fatal (List Source)) := do
  match ← expandPatterns o.files with
  | .error f => return .error f
  | .ok paths =>
    match ← readSources paths with
    | .error f => return .error f
    | .ok sources =>
      let sources := (o.query.map fun text => ⟨inlineName, text⟩).toList ++ sources
      return if sources.isEmpty then .error .noQueries else .ok sources

/-! ## The report -/

/-- What is wrong with a query, without the complaints whose codes are disabled. -/
def checkSource (schema : Option Model) (disable : List String) (s : Source) : Checked :=
  ⟨s, (Query.check schema s.text).filter fun d => !disable.contains d.code⟩

namespace Checked

/-- Whether a query has no errors. -/
def valid (c : Checked) : Bool := (Verdict.ofDiagnostics c.diagnostics).valid

/-- What is written about a query.  For people, nothing is written about one without
complaints. -/
def report (format : Format) (c : Checked) : List Event :=
  match format with
  | .human => noticeLines (humanReport c.source.name c.source.text c.diagnostics)
  | .json => outputJson (jsonReport c.source.name c.diagnostics)
  | .sarif => outputJson (sarifReport c.source.name c.diagnostics)

/-- Everything that happens when a query is checked. -/
def events (schema : Option Model) (format : Format) (c : Checked) : List Event :=
  recordEvents (passRecords schema c.source.text ++ [checkedRecord c.source.name c.valid]) ++
    c.report format

end Checked

/-- The number of complaints of a severity. -/
def countSeverity (s : Severity) (cs : List Checked) : Nat :=
  (cs.flatMap Checked.diagnostics).countP fun d => d.severity == s

/-- The last line of a report. -/
def summaryLine (cs : List Checked) : String :=
  let errors := countSeverity .error cs
  let warnings := countSeverity .warning cs
  let queries := cs.length.repr ++ " quer(ies)"
  if errors = 0 ∧ warnings = 0 then "All " ++ queries ++ " passed validation"
  else
    "Found " ++ errors.repr ++ " error(s), " ++ warnings.repr ++ " warning(s) in " ++ queries

/-- The report on queries that have been checked. -/
def report (quiet : Bool) (schema : Option Model) (format : Format) (cs : List Checked) : Run where
  events := cs.flatMap (Checked.events schema format) ++
    (if quiet then [] else [.notice (summaryLine cs)])
  outcome := .ok (cs.any fun c => !c.valid)

/-- Checks queries, with everything said in the options. -/
def runCheck (quiet : Bool) (o : CheckOptions) : Script Run := do
  let (events, schema) ← loadOptional quiet o.schema
  match ← gatherSources o with
  | .error f => return .failed events f
  | .ok sources =>
    let format := o.format.getD .human
    return (report quiet schema format (sources.map (checkSource schema o.disable))).after events

/-- The configuration that applies, and what happens on the way. -/
def loadConfig (o : CheckOptions) : Script (List Event × Except ConfigFailure Config) := do
  match o.config with
  | some path => return ([], ← Config.read path)
  | none =>
    match ← nearestConfig? with
    | some path => return ([.record (configRecord path)], ← Config.read path)
    | none => return ([], .ok .empty)

/-- Checks queries, with a configuration that says what the options leave out. -/
def runConfiguredCheck (quiet : Bool) (o : CheckOptions) : Script Run := do
  let (events, config) ← loadConfig o
  match config with
  | .error failure => return .failed events (.config failure)
  | .ok c => return (← runCheck quiet (c.complete o)).after events

end QueryLint.Command
