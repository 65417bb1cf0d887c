import QueryLint.Query.Finding
import QueryLint.Query.SelectList
import QueryLint.Text.Containment

/-!
# Aggregates and GROUP BY

Without GROUP BY, an aggregate beside a qualified column in the list behind SELECT is
suspicious.  With GROUP BY, each grouped expression should be selected; an expression counts as
selected if its text occurs in the list behind SELECT.

* `aggregateSpan?`: the first aggregate with its opening parenthesis.
* `groupByList?`: the text behind GROUP BY.
* `groupingFindings`: the check.
-/

namespace QueryLint.Query

open Text

/-- The aggregate functions. -/
def aggregates : List String := ["count", "sum", "avg", "min", "max", "string_agg"]

/-- The first aggregate that an opening parenthesis follows, from its name through the
parenthesis. -/
def aggregateSpan? : List Word → Option Span
  | [] => none
  | w :: ws =>
    match w.isOneOf aggregates, trimStart w.after with
    | true, '(' :: _ => some ⟨w.start, byteSize (w.text ++ blankPrefix w.after) + 1⟩
    | _, _ => aggregateSpan? ws

/-- The text behind the first GROUP BY that white space follows, up to ORDER, HAVING, LIMIT or
the end. -/
def groupByList? : List Word → Option (List Char)
  | w :: v :: rest =>
    if w.is "group" && w.after.all isBlank && v.is "by" && v.beforeBlank then
      some (textUpTo ["order", "having", "limit"] (trimStart v.after) rest).1
    else groupByList? (v :: rest)
  | _ => none

/-- A text cut at its commas. -/
def cutAtCommas : List Char → List (List Char)
  | [] => [[]]
  | c :: cs =>
    if c = ',' then [] :: cutAtCommas cs
    else
      match cutAtCommas cs with
      | [] => [[c]]
      | piece :: pieces => (c :: piece) :: pieces

/-- The grouped expressions whose text does not occur in the list behind SELECT. -/
def notSelected (list grouped : List Char) : List Finding :=
  (((cutAtCommas grouped).map trim).filter fun e => !e.isEmpty && !occursIn e list).map
    fun e => .groupByNotSelected (String.ofList e)

/-- Aggregates without GROUP BY, and grouped expressions that are not selected. -/
def groupingFindings (query : List Char) : List Finding :=
  let ws := wordsOf query
  match adjacentPair? "group" "by" ws with
  | none =>
    match aggregateSpan? ws, selectList? query with
    | some span, some list =>
      if (qualifiedPairs (wordsOf list)).isEmpty then [] else [.missingGroupBy span]
    | _, _ => []
  | some _ =>
    match selectList? query, groupByList? ws with
    | some list, some grouped => notSelected list grouped
    | _, _ => []

end QueryLint.Query
