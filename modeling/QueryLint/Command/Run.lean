import QueryLint.Command.Check
import QueryLint.Command.Listing
import QueryLint.Schema.ModelFormat
import QueryLint.Schema.Search

/-!
# Running a command

Every command but `check` and `schema` works on a schema that has to load; what is wrong with it
is logged and does no harm.

* `Invocation.run`.
-/

namespace QueryLint.Command

open Schema (Model)

/-- Runs a command on a schema, which has to load. -/
def withSchema (path : String) (f : Model → Run) : Script Run := do
  match ← Schema.load path with
  | .error failure => return .failed [] (.schema failure)
  | .ok b =>
    return (f b.model).after (recordEvents
      (b.records ++ b.diagnostics.map (warningRecord commandTarget)))

/-- Runs a command on a table of a schema. -/
def withTable (name : String) (m : Model) (f : Schema.Table → Run) : Run :=
  match m.table? name with
  | some t => f t
  | none => .failed [] (.unknownTable name)

/-- Writes names. -/
def nameEvents (format : Format) (names : List String) : List Event :=
  if format.isHuman then outputLines names else outputJson (.array (names.map Json.string))

/-- Looks for a join of two tables; having none is something wrong. -/
def runJoin (a b : String) (format : Format) (m : Model) : Run :=
  match m.joinPath? a b with
  | some j =>
    .ofEvents (if format.isHuman then [.output j.toString] else outputJson j.toJson)
  | none =>
    let said :=
      if format.isHuman then
        [.notice ("No direct foreign key between '" ++ a ++ "' and '" ++ b ++ "'")]
      else outputJson .null
    ⟨.record (noJoinRecord a b) :: said, .ok true⟩

/-- Lists tables, all of them if there are no keywords. -/
def runTables (keywords : List String) (format : Format) (m : Model) : Run :=
  if keywords.isEmpty then .ofEvents (nameEvents format m.tableNames)
  else
    let found := m.relevantTables keywords
    .ofEvents (.record (searchRecord found) :: nameEvents format found)

/-- Lists columns of a table, all of them if there are no keywords. -/
def runColumns (table : String) (keywords : List String) (format : Format) (m : Model) : Run :=
  withTable table m fun t =>
    .ofEvents (nameEvents format
      (if keywords.isEmpty then t.columnNames else m.suggestColumns table keywords))

/-- Shows a table. -/
def runInfo (table : String) (format : Format) (m : Model) : Run :=
  withTable table m fun t =>
    .ofEvents (if format.isHuman then outputLines (tableLines t) else outputJson t.toJson)

/-- Shows all tables in short. -/
def runSummary (format : Format) (m : Model) : Run :=
  .ofEvents
    (if format.isHuman then outputLines (summaryLines m.summary)
     else outputJson (.array (m.summary.map Schema.TableSummary.toJson)))

/-- Shows a schema with everything that is wrong with it. -/
def runSchema (file : String) : Script Run := do
  match ← Schema.load file with
  | .error failure => return .failed [] (.schema failure)
  | .ok b =>
    return .ofEvents (recordEvents b.records ++ outputLines (schemaLines b.model) ++
      noticeLines (humanReport file "" b.diagnostics))

/-- Runs a request. -/
def Invocation.run (i : Invocation) : Script Run :=
  match i.request with
  | .check options => runConfiguredCheck i.quiet options
  | .join a b schema format => withSchema schema (runJoin a b format)
  | .tables keywords schema format => withSchema schema (runTables keywords format)
  | .columns table keywords schema format => withSchema schema (runColumns table keywords format)
  | .info table schema format => withSchema schema (runInfo table format)
  | .summary schema format => withSchema schema (runSummary format)
  | .schema file => runSchema file

end QueryLint.Command
