import QueryLint.OrderedMap
import QueryLint.Text.LetterCase

/-!
# Schemas

A schema is a list of named tables; a table has columns, at most one primary key and foreign
keys.  Names keep their declared spelling, and every look-up by name ignores the case of ASCII
letters, except that a table declared under exactly the given name comes before all others.

* `Reference`: the target of a foreign key, written `table.column`; `Reference.ofString?` and
  `Reference.toString` read and write it.
* `Column`, `Table`, `Model`.
* `Table.column?`, `Model.table?`: look-up.
-/

namespace QueryLint.Schema

open Text (sameIgnoringCase)

/-- A text split at its first dot. -/
def splitAtDot : List Char → Option (List Char × List Char)
  | [] => none
  | c :: cs =>
    if c = '.' then some ([], cs)
    else (splitAtDot cs).map fun p => (c :: p.1, p.2)

/-- The target of a foreign key. -/
structure Reference where
  table : String
  column : String
  deriving DecidableEq, Repr

namespace Reference

/-- Reads `table.column`; the first dot separates the two, and neither may be empty. -/
def ofString? (s : String) : Option Reference :=
  match splitAtDot s.toList with
  | some (t :: ts, c :: cs) => some ⟨String.ofList (t :: ts), String.ofList (c :: cs)⟩
  | _ => none

/-- Writes `table.column`. -/
def toString (r : Reference) : String := r.table ++ "." ++ r.column

/-- Whether the reference points at a table, ignoring ASCII case. -/
def targets (r : Reference) (table : String) : Bool := sameIgnoringCase r.table table

end Reference

/-- A column: its declared type, free text, and whether it may be null. -/
structure Column where
  dataType : String
  nullable : Bool
  deriving DecidableEq, Repr

namespace Column

/-- A column that may be null. -/
def ofType (dataType : String) : Column := ⟨dataType, true⟩

/-- The same column, which may not be null. -/
def notNull (c : Column) : Column := { c with nullable := false }

end Column

/-- A table. -/
structure Table where
  name : String
  description : Option String
  columns : OrderedMap Column
  primaryKey : Option String
  /-- The target of each foreign key, by its column. -/
  foreignKeys : OrderedMap Reference
  deriving DecidableEq, Repr

namespace Table

/-- The first column of this name, ignoring ASCII case. -/
def column? (t : Table) (name : String) : Option Column :=
  t.columns.find? fun key => sameIgnoringCase key name

/-- Whether there is a column of this name, ignoring ASCII case. -/
def hasColumn (t : Table) (name : String) : Bool := (t.column? name).isSome

/-- The names of the columns in order. -/
def columnNames (t : Table) : List String := t.columns.keys

end Table

/-- A schema.  Tables are found by their keys, which need not be their names. -/
structure Model where
  tables : OrderedMap Table
  deriving DecidableEq, Repr

namespace Model

/-- The schema without tables. -/
def empty : Model := ⟨.empty⟩

/-- The keys of the tables in order. -/
def tableNames (m : Model) : List String := m.tables.keys

/-- The table under exactly this key, or else the first whose key is equal to it ignoring ASCII
case. -/
def table? (m : Model) (name : String) : Option Table :=
  (m.tables.get? name).or (m.tables.find? fun key => sameIgnoringCase key name)

/-- Whether there is a table of this name. -/
def hasTable (m : Model) (name : String) : Bool := (m.table? name).isSome

/-- The columns of a table in order; none if the table is unknown. -/
def columns (m : Model) (table : String) : List (String × Column) :=
  match m.table? table with
  | some t => t.columns.entries
  | none => []

/-- The primary key of a table, if it has one. -/
def primaryKey (m : Model) (table : String) : Option String :=
  (m.table? table).bind Table.primaryKey

/-- The foreign keys of a table in order; none if the table is unknown. -/
def foreignKeys (m : Model) (table : String) : List (String × Reference) :=
  match m.table? table with
  | some t => t.foreignKeys.entries
  | none => []

end Model

end QueryLint.Schema
