import QueryLint.Schema.Model

/-!
# Summary of a schema

One entry per table with its keys and the names of its columns, ordered by the name of the
table.  Names are compared by their code points, which is also the order of their bytes, and
tables of equal name keep their order.
-/

namespace QueryLint.Schema

/-- The condensed view of a table. -/
structure TableSummary where
  name : String
  primaryKey : Option String
  /-- Each foreign key as `column -> table.column`. -/
  foreignKeys : List String
  columns : List String
  deriving DecidableEq, Repr

/-- The condensed view of a table. -/
def Table.summary (t : Table) : TableSummary where
  name := t.name
  primaryKey := t.primaryKey
  foreignKeys := t.foreignKeys.entries.map fun e => e.1 ++ " -> " ++ e.2.toString
  columns := t.columns.keys

/-- The condensed views of all tables, ordered by name. -/
def Model.summary (m : Model) : List TableSummary :=
  (m.tables.values.map Table.summary).mergeSort fun a b => decide (a.name ≤ b.name)

end QueryLint.Schema
