import QueryLint.Query.Finding
import QueryLint.Text.Words

/-!
# Conditions of joins

A JOIN should have an ON behind its table, or behind the table's alias.  Where a query joins
tables, its conditions should qualify their columns.

* `joinUses`: every JOIN with the words that were read for it.
* `conditionBodies`: the texts behind WHERE and ON.
* `joinFindings`: the check.
-/

namespace QueryLint.Query

open Text

/-- A JOIN with the last word that was read for it. -/
structure JoinUse where
  join : Word
  last : Word
  /-- Whether an ON was among the words. -/
  conditioned : Bool
  deriving DecidableEq, Repr

/-- Reads on behind the table of a JOIN: AS if it is there, and up to two more words, each
adjacent to the one before.  The result is the last word read, whether one of the two is ON,
and the words that are left. -/
def readJoin (table : Word) (ws : List Word) : Word × Bool × List Word :=
  let (last, rest) : Word × List Word :=
    match table.next? ws with
    | some (v, rest) => if v.is "as" then (v, rest) else (table, ws)
    | none => (table, ws)
  match last.next? rest with
  | none => (last, false, rest)
  | some (v, rest) =>
    match v.next? rest with
    | none => (v, v.is "on", rest)
    | some (u, rest) => (u, v.is "on" || u.is "on", rest)

theorem length_readJoin_le (table : Word) (ws : List Word) :
    (readJoin table ws).2.2.length ≤ ws.length := by
  have step : ∀ (w : Word) (us : List Word) (v : Word) (rest : List Word),
      w.next? us = some (v, rest) → rest.length ≤ us.length :=
    fun w us v rest h => Nat.le_of_lt (Word.length_of_next? h)
  simp only [readJoin]
  grind

theorem length_readJoin_lt {w table : Word} {ws rest : List Word}
    (h : w.next? ws = some (table, rest)) : (readJoin table rest).2.2.length < ws.length :=
  Nat.lt_of_le_of_lt (length_readJoin_le table rest) (Word.length_of_next? h)

/-- Every JOIN that a word follows.  Words that were read for one JOIN are not read again. -/
def joinUses : List Word → List JoinUse
  | [] => []
  | w :: ws =>
    match hn : w.next? ws with
    | some (table, rest) =>
      if w.is "join" then
        have := length_readJoin_lt hn
        ⟨w, (readJoin table rest).1, (readJoin table rest).2.1⟩ ::
          joinUses (readJoin table rest).2.2
      else joinUses ws
    | none => joinUses ws
termination_by ws => ws.length
decreasing_by all_goals simp only [List.length_cons]; omega

/-- The texts behind WHERE and ON, each up to GROUP, ORDER, LIMIT or the end.  A text is read
as a whole, also where it holds another WHERE or ON. -/
def conditionBodies : List Word → List (List Char)
  | [] => []
  | w :: ws =>
    if w.isOneOf ["where", "on"] && w.beforeBlank then
      have := length_textUpTo_le ["group", "order", "limit"] (trimStart w.after) ws
      (textUpTo ["group", "order", "limit"] (trimStart w.after) ws).1 ::
        conditionBodies (textUpTo ["group", "order", "limit"] (trimStart w.after) ws).2
    else conditionBodies ws
termination_by ws => ws.length
decreasing_by all_goals simp only [List.length_cons]; omega

/-- Whether a text starts with a comparison sign. -/
def startsComparison : List Char → Bool
  | '=' :: _ | '<' :: _ | '>' :: _ | '!' :: '=' :: _ => true
  | _ => false

/-- Whether a condition compares something, but qualifies no column. -/
def isUnqualified (body : List Char) : Bool :=
  let ws := wordsOf body
  (qualifiedPairs ws).isEmpty && ws.any fun w => startsComparison (trimStart w.after)

/-- The first JOIN without ON. -/
def crossJoinSpan? (ws : List Word) : Option Span :=
  ((joinUses ws).find? fun u => !u.conditioned).map fun u => u.join.span.upTo u.last.span

/-- A JOIN without ON, and conditions without qualified columns in a query that joins. -/
def joinFindings (query : List Char) : List Finding :=
  let ws := wordsOf query
  ((crossJoinSpan? ws).map Finding.possibleCrossJoin).toList ++
    (if ws.any (·.is "join") && (conditionBodies ws).any isUnqualified then
      [.unqualifiedJoinColumn] else [])

end QueryLint.Query
