import QueryLint.Schema.Model
import QueryLint.Text.Containment
import QueryLint.Text.Lowercase

/-!
# Search by keyword

A keyword matches a text that contains it once both are in lower case.  Nothing is split into
words and nothing is ranked.

* `Model.relevantTables`: the names of the tables that some keyword matches, ascending and
  without repetition.
* `Model.suggestColumns`: the columns of a table that some keyword matches, in order.  The words
  `date` and `time` also stand for columns of a timestamp type, and `text` for columns of a
  varchar type.
-/

namespace QueryLint.Schema

open Text (lowercase occursIn)

/-- Whether some keyword occurs in the text; the keywords are in lower case. -/
def mentionsAny (keywords : List String) (text : String) : Bool :=
  keywords.any fun k => occursIn k.toList (lowercase text).toList

/-- Whether some keyword occurs in the table's name, a column name or the description. -/
def Table.mentionsAny (t : Table) (keywords : List String) : Bool :=
  Schema.mentionsAny keywords t.name || t.columns.keys.any (Schema.mentionsAny keywords) ||
    t.description.any (Schema.mentionsAny keywords)

/-- Puts a name in its place in an ascending list, unless it is there already. -/
def insertName (name : String) : List String → List String
  | [] => [name]
  | n :: ns =>
    if name < n then name :: n :: ns
    else if name = n then n :: ns
    else n :: insertName name ns

/-- The names of the tables that mention some keyword, ascending. -/
def Model.relevantTables (m : Model) (keywords : List String) : List String :=
  let wanted := keywords.map lowercase
  ((m.tables.values.filter fun t => t.mentionsAny wanted).map Table.name).foldr insertName []

/-- Whether a column is worth a suggestion; the keywords are in lower case. -/
def Column.suits (keywords : List String) (name : String) (c : Column) : Bool :=
  let dataType := (lowercase c.dataType).toList
  mentionsAny keywords name ||
    (keywords.any (fun k => k == "date" || k == "time") &&
      occursIn "timestamp".toList dataType) ||
    (keywords.any (· == "text") && occursIn "varchar".toList dataType)

/-- The columns of a table that suit some keyword, in order; none if the table is unknown. -/
def Model.suggestColumns (m : Model) (table : String) (keywords : List String) : List String :=
  let wanted := keywords.map lowercase
  ((m.columns table).filter fun e => e.2.suits wanted e.1).map Prod.fst

end QueryLint.Schema
