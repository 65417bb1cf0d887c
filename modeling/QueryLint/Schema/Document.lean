import QueryLint.OrderedMap

/-!
# Schema documents

What a schema document declares, before anything is made of it: tables with their columns,
their primary key and the references of their foreign keys.  Everything but the names may be
left out.
-/

namespace QueryLint.Schema

/-- The declaration of a column. -/
structure ColumnDocument where
  dataType : Option String
  nullable : Option Bool
  deriving DecidableEq, Repr

/-- The declaration of a table. -/
structure TableDocument where
  description : Option String
  primaryKey : Option String
  columns : OrderedMap ColumnDocument
  /-- The reference of each foreign key, not yet read. -/
  foreignKeys : OrderedMap String
  deriving DecidableEq, Repr

/-- A schema document. -/
structure Document where
  tables : OrderedMap TableDocument
  deriving DecidableEq, Repr

end QueryLint.Schema
