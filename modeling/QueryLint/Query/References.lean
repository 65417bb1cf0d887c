import QueryLint.Query.Finding
import QueryLint.Query.SelectList
import QueryLint.Schema.Model

/-!
# Tables and columns against the schema

A table is referred to by the word behind FROM or JOIN, and each different word is looked up
once, where it first occurs.  A column is referred to by `table.column` in the list behind
SELECT; aliases are no tables, and a reference to an unknown table is passed over.

* `tableReferences`: the words that name tables.
* `firstOccurrences`: the words without those whose text came before.
* `referenceFindings`: what the schema does not have.
-/

namespace QueryLint.Query

open Text
open Schema (Model)

/-- The words that name tables.  A word that has been taken as a name is not looked at as a
keyword. -/
def tableReferences : List Word → List Word
  | w :: v :: rest =>
    if w.isOneOf ["from", "join"] && w.after.all isBlank then v :: tableReferences rest
    else tableReferences (v :: rest)
  | _ => []

/-- The words whose text is not in `seen` and was not met before. -/
def firstOccurrences (seen : List (List Char)) : List Word → List Word
  | [] => []
  | w :: ws =>
    if w.text ∈ seen then firstOccurrences seen ws
    else w :: firstOccurrences (w.text :: seen) ws

/-- The tables that the schema does not have. -/
def unknownTables (m : Model) (query : List Char) : List Finding :=
  ((firstOccurrences [] (tableReferences (wordsOf query))).filter
    fun w => !m.hasTable w.name).map fun w => .tableNotFound w.name w.span

/-- Whether the schema has the table but not the column. -/
def lacksColumn (m : Model) (table column : String) : Bool :=
  match m.table? table with
  | some t => !t.hasColumn column
  | none => false

/-- The columns that known tables do not have. -/
def unknownColumns (m : Model) (query : List Char) : List Finding :=
  match selectList? query with
  | none => []
  | some list =>
    if trim list = ['*'] then []
    else
      ((qualifiedPairs (wordsOf list)).filter fun p => lacksColumn m p.1.name p.2.name).map
        fun p => .columnNotFound p.1.name p.2.name

/-- What a query refers to and the schema does not have. -/
def referenceFindings (schema : Option Model) (query : List Char) : List Finding :=
  match schema with
  | none => [.noSchema]
  | some m => unknownTables m query ++ unknownColumns m query

end QueryLint.Query
