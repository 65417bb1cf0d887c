import QueryLint.Diagnostic
import QueryLint.Schema.Document
import QueryLint.Schema.Model

/-!
# Building a schema from documents

A schema document declares tables.  Building a table never fails; what is wrong with it is
found and reported, and a foreign key whose reference cannot be read is left out.  A later
declaration of a table replaces the earlier one at the earlier one's place.  Once all documents
are in, each foreign key of the schema is checked for its target.

* `TableDocument.build`: a table and what was found in its declaration.
* `Builder`: the declarations built so far, in order; `Builder.model` and `Builder.findings` are
  views of that list.
* `Model.dangling`: the foreign keys without a target.
-/

namespace QueryLint.Schema

/-- What can be wrong with a schema. -/
inductive Finding where
  | undeclaredPrimaryKey (key table : String)
  | malformedReference (table column reference : String)
  | undeclaredForeignKey (column table : String)
  | unknownTable (table column target : String)
  | unknownColumn (table column : String) (target : Reference)
  deriving DecidableEq, Repr

namespace Finding

/-- The kind of a finding. -/
def kind : Finding → DiagnosticKind
  | undeclaredPrimaryKey .. => .undeclaredKeyColumn
  | malformedReference .. => .malformedForeignKey
  | undeclaredForeignKey .. => .undeclaredKeyColumn
  | unknownTable .. => .danglingForeignKey
  | unknownColumn .. => .danglingForeignKey

/-- The text of a finding. -/
def message : Finding → String
  | undeclaredPrimaryKey key table =>
    "Primary key '" ++ key ++ "' of table '" ++ table ++ "' is not a declared column"
  | malformedReference table column reference =>
    "Foreign key '" ++ table ++ "." ++ column ++ "' has malformed reference '" ++ reference ++
      "' (expected table.column)"
  | undeclaredForeignKey column table =>
    "Foreign key column '" ++ column ++ "' of table '" ++ table ++ "' is not a declared column"
  | unknownTable table column target =>
    "Foreign key '" ++ table ++ "." ++ column ++ "' references unknown table '" ++ target ++ "'"
  | unknownColumn table column target =>
    "Foreign key '" ++ table ++ "." ++ column ++ "' references unknown column '" ++
      target.toString ++ "'"

/-- The finding as a complaint. -/
def diagnostic (f : Finding) : Diagnostic := .ofKind f.kind f.message none none

end Finding

/-- A column without a type has the empty one, and it may be null unless that is denied. -/
def ColumnDocument.build (d : ColumnDocument) : Column :=
  ⟨d.dataType.getD "", d.nullable.getD true⟩

/-- A table as built from one declaration. -/
structure BuiltTable where
  table : Table
  findings : List Finding
  deriving DecidableEq, Repr

/-- What is wrong with the primary key of a table. -/
def primaryKeyFindings (name : String) (columns : OrderedMap Column) :
    Option String → List Finding
  | some key => if columns.contains key then [] else [.undeclaredPrimaryKey key name]
  | none => []

/-- What is wrong with one foreign key of a table. -/
def foreignKeyFindings (name : String) (columns : OrderedMap Column) (column reference : String) :
    List Finding :=
  match Reference.ofString? reference with
  | none => [.malformedReference name column reference]
  | some _ => if columns.contains column then [] else [.undeclaredForeignKey column name]

/-- The table that a declaration stands for, and what is wrong with it. -/
def TableDocument.build (name : String) (d : TableDocument) : BuiltTable :=
  let columns := d.columns.map ColumnDocument.build
  { table :=
      { name := name
        description := d.description
        columns := columns
        primaryKey := d.primaryKey
        foreignKeys := d.foreignKeys.filterMap Reference.ofString? }
    findings := primaryKeyFindings name columns d.primaryKey ++
      d.foreignKeys.entries.flatMap fun e => foreignKeyFindings name columns e.1 e.2 }

/-- What is wrong with the target of one foreign key. -/
def Model.targetFindings (m : Model) (table column : String) (r : Reference) : List Finding :=
  match m.table? r.table with
  | none => [.unknownTable table column r.table]
  | some target => if target.hasColumn r.column then [] else [.unknownColumn table column r]

/-- The foreign keys whose target is not in the schema. -/
def Model.dangling (m : Model) : List Finding :=
  m.tables.values.flatMap fun t =>
    t.foreignKeys.entries.flatMap fun e => m.targetFindings t.name e.1 e.2

/-- A schema under construction: every declaration so far, in order. -/
structure Builder where
  built : List BuiltTable
  deriving DecidableEq, Repr

namespace Builder

/-- No declarations yet. -/
def empty : Builder := ⟨[]⟩

/-- Adds every table of a document. -/
def addDocument (b : Builder) (d : Document) : Builder :=
  ⟨b.built ++ d.tables.entries.map fun e => e.2.build e.1⟩

/-- The schema declared so far. -/
def model (b : Builder) : Model :=
  ⟨.ofList (b.built.map fun t => (t.table.name, t.table))⟩

/-- Everything that is wrong with the schema: what each declaration gave rise to, also one that
was replaced, and then the foreign keys without a target. -/
def findings (b : Builder) : List Finding :=
  b.built.flatMap BuiltTable.findings ++ b.model.dangling

/-- The findings as complaints. -/
def diagnostics (b : Builder) : List Diagnostic := b.findings.map Finding.diagnostic

end Builder

end QueryLint.Schema
