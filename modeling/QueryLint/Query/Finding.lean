import QueryLint.Diagnostic

/-!
# What can be wrong with a query

Each check of a query reports causes, `Finding`.  Their kinds, severities, texts, spans and hints
are fixed here and nowhere else.  Spans count from the start of the trimmed query, and so does the
offset that the text about an unexpected parenthesis names.

* `Finding.diagnostic`: the complaint that a finding becomes.
* `Finding.severity_eq`: how bad a finding is agrees with the code of its kind.
-/

namespace QueryLint.Query

open Text (Span)

/-- A cause for complaint about a query. -/
inductive Finding where
  | unterminatedString
  | unterminatedIdentifier
  /-- A closing parenthesis at this offset closes nothing. -/
  | unexpectedClose (offset : Nat)
  /-- This many parentheses stay open. -/
  | unclosed (count : Nat)
  | missingTableName (span : Span)
  | missingColumnList (span : Span)
  | noSchema
  | tableNotFound (name : String) (span : Span)
  | columnNotFound (table column : String)
  | missingGroupBy (span : Span)
  | groupByNotSelected (expression : String)
  | possibleCrossJoin (span : Span)
  | unqualifiedJoinColumn
  | unfilteredMutation (operation : String) (span : Span)
  | unboundedSelect
  | injectedDrop (span : Span)
  | injectedComment (span : Span)
  | injectedTautology (span : Span)
  deriving DecidableEq, Repr

namespace Finding

/-- The kind of a finding. -/
def kind : Finding → DiagnosticKind
  | unterminatedString => .unterminatedString
  | unterminatedIdentifier => .unterminatedIdentifier
  | unexpectedClose _ => .unbalancedParentheses
  | unclosed _ => .unclosedParenthesis
  | missingTableName _ => .missingTableName
  | missingColumnList _ => .missingColumnList
  | noSchema => .noSchema
  | tableNotFound .. => .tableNotFound
  | columnNotFound .. => .columnNotFound
  | missingGroupBy _ => .missingGroupBy
  | groupByNotSelected _ => .groupByNotSelected
  | possibleCrossJoin _ => .possibleCrossJoin
  | unqualifiedJoinColumn => .unqualifiedJoinColumn
  | unfilteredMutation .. => .unfilteredMutation
  | unboundedSelect => .unboundedSelect
  | injectedDrop _ => .injectedDrop
  | injectedComment _ => .injectedComment
  | injectedTautology _ => .injectedTautology

/-- How bad a finding is.  Every cause says so by itself. -/
def severity : Finding → Severity
  | unterminatedString | unterminatedIdentifier | unexpectedClose _ | unclosed _
  | missingTableName _ | missingColumnList _ | tableNotFound .. | columnNotFound ..
  | unfilteredMutation .. | injectedDrop _ | injectedComment _ | injectedTautology _ => .error
  | noSchema | missingGroupBy _ | groupByNotSelected _ | possibleCrossJoin _
  | unqualifiedJoinColumn | unboundedSelect => .warning

/-- The text of a finding. -/
def message : Finding → String
  | unterminatedString =>
    "Syntax error: unterminated string literal (odd number of single quotes)"
  | unterminatedIdentifier =>
    "Syntax error: unterminated identifier (odd number of double quotes)"
  | unexpectedClose offset =>
    "Syntax error: unbalanced parentheses (unexpected ')' at offset " ++ offset.repr ++ ")"
  | unclosed count => "Syntax error: unclosed parenthesis (" ++ count.repr ++ " left open)"
  | missingTableName _ => "Syntax error: missing table name between FROM and WHERE"
  | missingColumnList _ => "Syntax error: missing column list between SELECT and FROM"
  | noSchema => "No schema loaded; table and column references were not checked"
  | tableNotFound name _ => "Table '" ++ name ++ "' not found in schema"
  | columnNotFound table column =>
    "Column '" ++ column ++ "' not found in table '" ++ table ++ "'"
  | missingGroupBy _ =>
    "Aggregate function used without GROUP BY; consider grouping by the non-aggregated columns"
  | groupByNotSelected expression =>
    "GROUP BY column '" ++ expression ++ "' does not appear in SELECT clause"
  | possibleCrossJoin _ => "JOIN without ON condition may produce an unintended cross join"
  | unqualifiedJoinColumn =>
    "Unqualified column in a JOIN query; use table aliases (e.g. u.id) to avoid ambiguity"
  | unfilteredMutation operation _ =>
    "Dangerous operation: " ++ operation ++ " without WHERE clause affects every row"
  | unboundedSelect =>
    "SELECT without LIMIT may return an unbounded number of rows; consider adding LIMIT"
  | injectedDrop _ => "Possible SQL injection: statement terminator followed by DROP"
  | injectedComment _ => "Possible SQL injection: trailing '--' comment marker"
  | injectedTautology _ => "Possible SQL injection: 'OR '1'='1 tautology"

/-- The part of the query that a finding is about. -/
def span? : Finding → Option Span
  | unexpectedClose offset => some ⟨offset, 1⟩
  | missingTableName s | missingColumnList s | tableNotFound _ s | missingGroupBy s
  | possibleCrossJoin s | unfilteredMutation _ s | injectedDrop s | injectedComment s
  | injectedTautology s => some s
  | _ => none

/-- What to do about a finding. -/
def help? : Finding → Option String
  | unterminatedString => some "close the string literal or escape the quote as ''"
  | possibleCrossJoin _ => some "add an ON clause relating the joined tables"
  | _ => none

/-- The complaint that a finding becomes. -/
def diagnostic (f : Finding) : Diagnostic := ⟨f.kind, f.severity, f.message, f.span?, f.help?⟩

@[simp] theorem kind_diagnostic (f : Finding) : f.diagnostic.kind = f.kind := rfl

@[simp] theorem severity_diagnostic (f : Finding) : f.diagnostic.severity = f.severity := rfl

/-- The severity of a finding is the one that the code of its kind stands for. -/
theorem severity_eq (f : Finding) : f.severity = f.kind.severity := by
  cases f <;> simp only [severity, kind] <;> decide

@[simp] theorem span_diagnostic (f : Finding) : f.diagnostic.span = f.span? := rfl

end Finding

end QueryLint.Query
