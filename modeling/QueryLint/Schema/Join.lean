import QueryLint.Schema.Model

/-!
# Joins over one foreign key

Two tables can be joined if one of them has a foreign key to the other.  The first table's
foreign keys come before the second's, and within a table the first in order wins.  Tables that
are linked through a third one are not joined.

* `Model.joinPath?`: the join of two tables.
* `Join.toString`: the join as it is written behind the first table.
-/

namespace QueryLint.Schema

/-- How rows without a partner are treated. -/
inductive JoinKind where
  /-- They are left out. -/
  | inner
  deriving DecidableEq, Repr

/-- The keyword of a kind of join. -/
def JoinKind.keyword : JoinKind → String
  | inner => "INNER"

/-- A join over one foreign key. -/
structure Join where
  kind : JoinKind
  /-- The table that has the foreign key. -/
  left : String
  /-- The table that the foreign key points at. -/
  right : String
  /-- The equality of the two columns. -/
  condition : String
  deriving DecidableEq, Repr

/-- The join as it is written behind the left table. -/
def Join.toString (j : Join) : String :=
  j.kind.keyword ++ " JOIN " ++ j.right ++ " ON " ++ j.condition

/-- The join over the first foreign key of `source` that points at `target`. -/
def Model.joinFrom? (m : Model) (source target : String) : Option Join := do
  let t ← m.table? source
  let (column, reference) ← t.foreignKeys.entries.find? fun e => e.2.targets target
  return ⟨.inner, t.name, reference.table,
    t.name ++ "." ++ column ++ " = " ++ reference.toString⟩

/-- A join of two tables, over a foreign key of the first or else of the second. -/
def Model.joinPath? (m : Model) (a b : String) : Option Join :=
  (m.joinFrom? a b).or (m.joinFrom? b a)

end QueryLint.Schema
