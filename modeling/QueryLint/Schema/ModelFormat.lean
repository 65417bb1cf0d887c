import QueryLint.Json.Printer
import QueryLint.Json.Record
import QueryLint.Schema.Join
import QueryLint.Schema.Summary

/-!
# Schemas as JSON

A schema, a table, a summary and a join have a JSON form.  A schema can also be read back; then
every field but the optional ones has to be there, and a table may stand under a key that is
not its name.

* `Model.toJson`, `Table.toJson`, `TableSummary.toJson`, `Join.toJson`.
* `Model.ofText?`, `Table.ofText?`.
-/

namespace QueryLint.Schema

open Json (Fault RecordField Reader Record)

/-- A map as an object with the same order. -/
def mapToJson {α : Type} (f : α → Json) (m : OrderedMap α) : Json :=
  .object (m.entries.map fun e => (e.1, f e.2))

/-- A column as JSON. -/
def Column.toJson (c : Column) : Json :=
  .object [("data_type", .string c.dataType), ("nullable", .bool c.nullable)]

/-- The target of a foreign key as JSON. -/
def Reference.toJson (r : Reference) : Json :=
  .object [("table", .string r.table), ("column", .string r.column)]

/-- A table as JSON. -/
def Table.toJson (t : Table) : Json :=
  .object
    [("name", .string t.name),
     ("description", Json.optionalString t.description),
     ("columns", mapToJson Column.toJson t.columns),
     ("primary_key", Json.optionalString t.primaryKey),
     ("foreign_keys", mapToJson Reference.toJson t.foreignKeys)]

/-- A schema as JSON. -/
def Model.toJson (m : Model) : Json := .object [("tables", mapToJson Table.toJson m.tables)]

/-- The condensed view of a table as JSON. -/
def TableSummary.toJson (t : TableSummary) : Json :=
  .object
    [("name", .string t.name),
     ("primary_key", Json.optionalString t.primaryKey),
     ("foreign_keys", .array (t.foreignKeys.map Json.string)),
     ("columns", .array (t.columns.map Json.string))]

/-- A join as JSON. -/
def Join.toJson (j : Join) : Json :=
  .object
    [("join_type", .string j.kind.keyword), ("left_table", .string j.left),
     ("right_table", .string j.right), ("condition", .string j.condition)]

/-- The fields of a column that have been read. -/
structure ColumnDraft where
  dataType : Option String
  nullable : Option Bool
  deriving Repr

/-- A column. -/
def columnRecord : Record ColumnDraft Column where
  name := "ColumnSpec"
  fields :=
    [⟨"data_type", fun d => d.dataType.isSome, fun d => do
        return { d with dataType := some (← Json.readString) }⟩,
     ⟨"nullable", fun d => d.nullable.isSome, fun d => do
        return { d with nullable := some (← Json.readBool) }⟩]
  blank := ⟨none, none⟩
  mayBeShort := false
  complete d := do
    let dataType ← Json.required "data_type" d.dataType
    let nullable ← Json.required "nullable" d.nullable
    return ⟨dataType, nullable⟩

/-- The fields of a foreign key's target that have been read. -/
structure ReferenceDraft where
  table : Option String
  column : Option String
  deriving Repr

/-- The target of a foreign key. -/
def referenceRecord : Record ReferenceDraft Reference where
  name := "ForeignKeyRef"
  fields :=
    [⟨"table", fun d => d.table.isSome, fun d => do
        return { d with table := some (← Json.readString) }⟩,
     ⟨"column", fun d => d.column.isSome, fun d => do
        return { d with column := some (← Json.readString) }⟩]
  blank := ⟨none, none⟩
  mayBeShort := false
  complete d := do
    let table ← Json.required "table" d.table
    let column ← Json.required "column" d.column
    return ⟨table, column⟩

/-- The fields of a built table that have been read. -/
structure BuiltTableDraft where
  name : Option String
  description : Option (Option String)
  columns : Option (OrderedMap Column)
  primaryKey : Option (Option String)
  foreignKeys : Option (OrderedMap Reference)
  deriving Repr

/-- A built table. -/
def builtTableRecord : Record BuiltTableDraft Table where
  name := "TableDef"
  fields :=
    [⟨"name", fun d => d.name.isSome, fun d => do
        return { d with name := some (← Json.readString) }⟩,
     ⟨"description", fun d => d.description.isSome, fun d => do
        return { d with description := some (← Json.optional Json.readString) }⟩,
     ⟨"columns", fun d => d.columns.isSome, fun d => do
        return { d with columns := some (← Json.readMap columnRecord.read) }⟩,
     ⟨"primary_key", fun d => d.primaryKey.isSome, fun d => do
        return { d with primaryKey := some (← Json.optional Json.readString) }⟩,
     ⟨"foreign_keys", fun d => d.foreignKeys.isSome, fun d => do
        return { d with foreignKeys := some (← Json.readMap referenceRecord.read) }⟩]
  blank := ⟨none, none, none, none, none⟩
  mayBeShort := false
  complete d := do
    let name ← Json.required "name" d.name
    let columns ← Json.required "columns" d.columns
    let foreignKeys ← Json.required "foreign_keys" d.foreignKeys
    return {
      name, columns, foreignKeys
      description := d.description.getD none
      primaryKey := d.primaryKey.getD none }

/-- A schema. -/
def modelRecord : Record (Option (OrderedMap Table)) Model where
  name := "SchemaModel"
  fields := [⟨"tables", Option.isSome, fun _ => do
    return some (← Json.readMap builtTableRecord.read)⟩]
  blank := none
  mayBeShort := false
  complete d := (Json.required "tables" d).map Model.mk

/-- The schema that a text is. -/
def Model.ofText? (text : String) : Except Fault Model :=
  Json.finish modelRecord.read text.toList

/-- The table that a text is. -/
def Table.ofText? (text : String) : Except Fault Table :=
  Json.finish builtTableRecord.read text.toList

end QueryLint.Schema
