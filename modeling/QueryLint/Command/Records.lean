import QueryLint.Log
import QueryLint.Query.Check
import QueryLint.Schema.Builder

/-!
# What is logged

Each part of the program leaves records of what it does: building a schema, the passes of a
check, the search for tables and for joins, and the command line itself.

* `Builder.records`: everything that building a schema leaves.
* `passRecords`: one record for each pass of a check.
-/

namespace QueryLint

open Log (Record)

/-- The part of the program that builds schemas. -/
def builderTarget : String := "sqlscout_core::schema::builder"

/-- The record of something wrong with a schema. -/
def warningRecord (target : String) (d : Diagnostic) : Record :=
  ⟨.warn, target, d.message, [⟨"code", .text d.code⟩]⟩

/-- The record of a table that has been added to a schema. -/
def loadedRecord (t : Schema.Table) : Record :=
  ⟨.debug, builderTarget, "loaded table",
    [⟨"table", .bare t.name⟩, ⟨"columns", .number t.columns.size⟩,
     ⟨"foreign_keys", .number t.foreignKeys.size⟩]⟩

/-- The records that one table leaves. -/
def Schema.BuiltTable.records (t : Schema.BuiltTable) : List Record :=
  t.findings.map (fun f => warningRecord builderTarget f.diagnostic) ++ [loadedRecord t.table]

/-- The records that a schema leaves: those of its tables, and then its dangling keys. -/
def Schema.Builder.records (b : Schema.Builder) : List Record :=
  b.built.flatMap Schema.BuiltTable.records ++
    b.model.dangling.map fun f => warningRecord builderTarget f.diagnostic

/-- The record of a pass. -/
def passRecord (schema : Option Schema.Model) (query : List Char) (pass : Query.Pass) : Record :=
  ⟨.debug, "sqlscout_core::validator", "validation pass finished",
    [⟨"pass", .text pass.name⟩, ⟨"found", .number (pass.run schema query).length⟩]⟩

/-- The records that a check leaves. -/
def passRecords (schema : Option Schema.Model) (query : String) : List Record :=
  Query.Pass.all.map (passRecord schema (Text.trim query.toList))

/-- The record of a search for tables. -/
def searchRecord (found : List String) : Record :=
  ⟨.debug, "sqlscout_core::search", "relevant tables found", [⟨"count", .number found.length⟩]⟩

/-- The record of a search for a join in vain. -/
def noJoinRecord (a b : String) : Record :=
  ⟨.debug, "sqlscout_core::join", "no single-hop join path", [⟨"a", .text a⟩, ⟨"b", .text b⟩]⟩

/-- The part of the program that is the command line. -/
def commandTarget : String := "sqlscout"

/-- The record of a configuration file that has been found. -/
def configRecord (path : String) : Record :=
  ⟨.debug, commandTarget, "using config file", [⟨"path", .bare path⟩]⟩

/-- The record of a query that has been checked. -/
def checkedRecord (name : String) (valid : Bool) : Record :=
  ⟨.info, commandTarget, "checked query", [⟨"source", .bare name⟩, ⟨"valid", .truth valid⟩]⟩

end QueryLint
