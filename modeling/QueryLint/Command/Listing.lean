import QueryLint.Schema.Join
import QueryLint.Schema.Summary

/-!
# Schemas as lines of text

What a schema holds, for people to read: one table, all tables in short, or everything.

* `tableLines`, `summaryLines`, `schemaLines`.
-/

namespace QueryLint.Command

open Schema (Column Model Reference Table TableSummary)

/-- Whether a column may be null. -/
def nullWord (c : Column) : String := if c.nullable then "NULL" else "NOT NULL"

/-- A part of a listing under a heading, with an empty line in front; nothing if there is
nothing to list. -/
def headed (heading : String) (lines : List String) : List String :=
  if lines.isEmpty then [] else "" :: heading :: lines

/-- A column of a table. -/
def columnLine (e : String × Column) : String :=
  "  - " ++ e.1 ++ ": " ++ e.2.dataType ++ " " ++ nullWord e.2

/-- A foreign key. -/
def keyText (e : String × Reference) : String := e.1 ++ " -> " ++ e.2.toString

/-- All about one table. -/
def tableLines (t : Table) : List String :=
  ["Table: " ++ t.name] ++
    (t.description.map ("Description: " ++ ·)).toList ++
    ["", "Columns:"] ++ t.columns.entries.map columnLine ++
    (match t.primaryKey with
     | some key => ["", "Primary Key: " ++ key]
     | none => []) ++
    headed "Foreign Keys:" (t.foreignKeys.entries.map fun e => "  - " ++ keyText e)

/-- A table in short. -/
def summaryOf (t : TableSummary) : List String :=
  [t.name ++ ":", "  PK: " ++ t.primaryKey.getD ""] ++
    (if t.foreignKeys.isEmpty then []
     else ["  FKs: " ++ ", ".intercalate t.foreignKeys]) ++
    ["  Columns: " ++ ", ".intercalate t.columns]

/-- All tables in short. -/
def summaryLines (ts : List TableSummary) : List String := ts.flatMap summaryOf

/-- A column of a table in a full listing, where the primary key is marked. -/
def fullColumnLine (primaryKey : Option String) (e : String × Column) : String :=
  "    - " ++ e.1 ++ " " ++ e.2.dataType ++ " " ++ nullWord e.2 ++
    (if primaryKey = some e.1 then " PRIMARY KEY" else "")

/-- A table in a full listing. -/
def fullTableLines (t : Table) : List String :=
  ["", "Table: " ++ t.name] ++
    (t.description.map ("  " ++ ·)).toList ++
    t.columns.entries.map (fullColumnLine t.primaryKey) ++
    t.foreignKeys.entries.map fun e => "    * " ++ keyText e

/-- A full listing of a schema. -/
def schemaLines (m : Model) : List String :=
  ["Schema Information:", "=================="] ++ m.tables.values.flatMap fullTableLines

end QueryLint.Command
