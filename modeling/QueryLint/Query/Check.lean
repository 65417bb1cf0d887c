import QueryLint.Query.Balance
import QueryLint.Query.Grouping
import QueryLint.Query.Joins
import QueryLint.Query.References
import QueryLint.Query.Safety

/-!
# Checking a query

A query is trimmed and then goes through five passes, each of which sees all of it and none of
which can stop the others.  Only here spans are moved back to the query as it was given.

* `Pass`: the passes in order.
* `findings`: what all passes find in a trimmed query.
* `check`: the complaints about a query.
* `validate`: their verdict.
-/

namespace QueryLint.Query

open Text
open Schema (Model)

/-- The passes. -/
inductive Pass where
  | balance
  | references
  | grouping
  | joins
  | safety
  deriving DecidableEq, Repr

namespace Pass

/-- The passes in the order in which they run. -/
def all : List Pass := [balance, references, grouping, joins, safety]

/-- What a pass is called in the log. -/
def name : Pass → String
  | balance => "syntax"
  | references => "references"
  | grouping => "grouping"
  | joins => "joins"
  | safety => "safety"

/-- What a pass finds in a trimmed query. -/
def run (schema : Option Model) (query : List Char) : Pass → List Finding
  | balance => balanceFindings query
  | references => referenceFindings schema query
  | grouping => groupingFindings query
  | joins => joinFindings query
  | safety => safetyFindings query

end Pass

/-- What all passes find in a trimmed query. -/
def findings (schema : Option Model) (query : List Char) : List Finding :=
  Pass.all.flatMap (Pass.run schema query)

/-- The findings of the passes one behind the other. -/
theorem findings_eq_append (schema : Option Model) (query : List Char) :
    findings schema query =
      balanceFindings query ++ (referenceFindings schema query ++ (groupingFindings query ++
        (joinFindings query ++ safetyFindings query))) := by
  simp only [findings, Pass.all, Pass.run, List.flatMap_cons, List.flatMap_nil, List.append_nil]

/-- The complaints about a query.  Spans count from the start of the query as given. -/
def check (schema : Option Model) (query : String) : List Diagnostic :=
  let cs := query.toList
  (findings schema (trim cs)).map fun f => f.diagnostic.shifted (byteSize (blankPrefix cs))

/-- The verdict on a query. -/
def validate (schema : Option Model) (query : String) : Verdict :=
  .ofDiagnostics (check schema query)

end QueryLint.Query
