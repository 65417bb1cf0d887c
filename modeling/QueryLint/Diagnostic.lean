import QueryLint.Text.Bytes

/-!
# Diagnostics

What a schema or a query is criticised for.  `DiagnosticKind` lists the twenty-one kinds; each
has a code that never changes its meaning, and the first letter of the code says whether the
kind is an error or a warning.  A `Diagnostic` is one complaint with its text, and a `Verdict`
is a list of complaints split by severity.

* `DiagnosticKind.code`, `DiagnosticKind.name`, `DiagnosticKind.severity`.
* `Verdict.ofDiagnostics`: errors and warnings, each in order; a query is valid without errors.
-/

namespace QueryLint

open Text (Span)

/-- How bad a complaint is. -/
inductive Severity where
  | error
  | warning
  deriving DecidableEq, Repr

namespace Severity

/-- The word for a severity. -/
def name : Severity → String
  | error => "error"
  | warning => "warning"

/-- All severities. -/
def all : List Severity := [error, warning]

/-- The severity with a given word. -/
def ofName? (s : String) : Option Severity := all.find? fun v => v.name == s

end Severity

/-- The kinds of complaints. -/
inductive DiagnosticKind where
  /-- A query names a table that the schema does not have. -/
  | tableNotFound
  /-- A query names a column that its table does not have. -/
  | columnNotFound
  /-- An odd number of single quotes. -/
  | unterminatedString
  /-- An odd number of double quotes. -/
  | unterminatedIdentifier
  /-- A closing parenthesis without an opening one. -/
  | unbalancedParentheses
  /-- An opening parenthesis that is never closed. -/
  | unclosedParenthesis
  /-- FROM directly followed by WHERE. -/
  | missingTableName
  /-- SELECT directly followed by FROM. -/
  | missingColumnList
  /-- DELETE or UPDATE without WHERE. -/
  | unfilteredMutation
  /-- A statement terminator followed by DROP. -/
  | injectedDrop
  /-- A query that ends in a comment marker. -/
  | injectedComment
  /-- A condition that is always true. -/
  | injectedTautology
  /-- There is no schema to look names up in. -/
  | noSchema
  /-- An aggregate beside qualified columns without GROUP BY. -/
  | missingGroupBy
  /-- A GROUP BY expression that is not selected. -/
  | groupByNotSelected
  /-- JOIN without ON. -/
  | possibleCrossJoin
  /-- A comparison of unqualified columns in a query with JOIN. -/
  | unqualifiedJoinColumn
  /-- SELECT without LIMIT. -/
  | unboundedSelect
  /-- A foreign key to a table or column that does not exist. -/
  | danglingForeignKey
  /-- A foreign key reference without a dot between table and column. -/
  | malformedForeignKey
  /-- A key on a column that its table does not have. -/
  | undeclaredKeyColumn
  deriving DecidableEq, Repr

namespace DiagnosticKind

/-- All kinds, in the order of their declaration. -/
def all : List DiagnosticKind :=
  [tableNotFound, columnNotFound, unterminatedString, unterminatedIdentifier,
   unbalancedParentheses, unclosedParenthesis, missingTableName, missingColumnList,
   unfilteredMutation, injectedDrop, injectedComment, injectedTautology, noSchema,
   missingGroupBy, groupByNotSelected, possibleCrossJoin, unqualifiedJoinColumn,
   unboundedSelect, danglingForeignKey, malformedForeignKey, undeclaredKeyColumn]

theorem mem_all (k : DiagnosticKind) : k ∈ all := by cases k <;> decide

/-- The stable code of a kind. -/
def code : DiagnosticKind → String
  | tableNotFound => "E0001"
  | columnNotFound => "E0002"
  | unterminatedString => "E0003"
  | unterminatedIdentifier => "E0004"
  | unbalancedParentheses => "E0005"
  | unclosedParenthesis => "E0006"
  | missingTableName => "E0007"
  | missingColumnList => "E0008"
  | unfilteredMutation => "E0009"
  | injectedDrop => "E0010"
  | injectedComment => "E0011"
  | injectedTautology => "E0012"
  | noSchema => "W0001"
  | missingGroupBy => "W0002"
  | groupByNotSelected => "W0003"
  | possibleCrossJoin => "W0004"
  | unqualifiedJoinColumn => "W0005"
  | unboundedSelect => "W0006"
  | danglingForeignKey => "W0007"
  | malformedForeignKey => "W0008"
  | undeclaredKeyColumn => "W0009"

/-- The name of a kind for readers. -/
def name : DiagnosticKind → String
  | tableNotFound => "table-not-found"
  | columnNotFound => "column-not-found"
  | unterminatedString => "unterminated-string"
  | unterminatedIdentifier => "unterminated-identifier"
  | unbalancedParentheses => "unbalanced-parentheses"
  | unclosedParenthesis => "unclosed-parenthesis"
  | missingTableName => "missing-table-name"
  | missingColumnList => "missing-column-list"
  | unfilteredMutation => "unfiltered-mutation"
  | injectedDrop => "injected-drop"
  | injectedComment => "injected-comment"
  | injectedTautology => "injected-tautology"
  | noSchema => "no-schema"
  | missingGroupBy => "missing-group-by"
  | groupByNotSelected => "group-by-not-selected"
  | possibleCrossJoin => "possible-cross-join"
  | unqualifiedJoinColumn => "unqualified-join-column"
  | unboundedSelect => "unbounded-select"
  | danglingForeignKey => "dangling-foreign-key"
  | malformedForeignKey => "malformed-foreign-key"
  | undeclaredKeyColumn => "undeclared-key-column"

/-- The word for a kind in reports that programs read. -/
def tag : DiagnosticKind → String
  | tableNotFound => "TableNotFound"
  | columnNotFound => "ColumnNotFound"
  | unterminatedString => "UnterminatedString"
  | unterminatedIdentifier => "UnterminatedIdentifier"
  | unbalancedParentheses => "UnbalancedParentheses"
  | unclosedParenthesis => "UnclosedParenthesis"
  | missingTableName => "MissingTableName"
  | missingColumnList => "MissingColumnList"
  | unfilteredMutation => "UnfilteredMutation"
  | injectedDrop => "InjectedDrop"
  | injectedComment => "InjectedComment"
  | injectedTautology => "InjectedTautology"
  | noSchema => "NoSchema"
  | missingGroupBy => "MissingGroupBy"
  | groupByNotSelected => "GroupByNotSelected"
  | possibleCrossJoin => "PossibleCrossJoin"
  | unqualifiedJoinColumn => "UnqualifiedJoinColumn"
  | unboundedSelect => "UnboundedSelect"
  | danglingForeignKey => "DanglingForeignKey"
  | malformedForeignKey => "MalformedForeignKey"
  | undeclaredKeyColumn => "UndeclaredKeyColumn"

/-- The kind with a given tag. -/
def ofTag? (s : String) : Option DiagnosticKind := all.find? fun k => k.tag == s

@[simp] theorem ofTag?_tag (k : DiagnosticKind) : ofTag? k.tag = some k := by
  cases k <;> decide

/-- The severity that the first letter of the code stands for. -/
def severity (k : DiagnosticKind) : Severity :=
  match k.code.toList with
  | 'W' :: _ => .warning
  | _ => .error

end DiagnosticKind

/-- A complaint about a schema or a query. -/
structure Diagnostic where
  kind : DiagnosticKind
  severity : Severity
  message : String
  /-- The part of the query that it is about. -/
  span : Option Span
  help : Option String
  deriving DecidableEq, Repr

namespace Diagnostic

/-- A complaint whose severity is that of its kind. -/
def ofKind (kind : DiagnosticKind) (message : String) (span : Option Span := none)
    (help : Option String := none) : Diagnostic :=
  ⟨kind, kind.severity, message, span, help⟩

/-- The code of the complaint's kind. -/
def code (d : Diagnostic) : String := d.kind.code

/-- Whether the complaint makes a query invalid. -/
def isError (d : Diagnostic) : Bool := d.severity == .error

/-- The complaint about the same query after `base` bytes have been put in front of it. -/
def shifted (d : Diagnostic) (base : Nat) : Diagnostic :=
  { d with span := d.span.map (·.shifted base) }

@[simp] theorem shifted_zero (d : Diagnostic) : d.shifted 0 = d := by
  obtain ⟨kind, severity, message, span, help⟩ := d
  cases span <;> rfl

theorem shifted_shifted (d : Diagnostic) (a b : Nat) :
    (d.shifted a).shifted b = d.shifted (a + b) := by
  obtain ⟨kind, severity, message, span, help⟩ := d
  cases span with
  | none => rfl
  | some s =>
    simp only [shifted, Option.map_some]
    rw [Span.shifted_shifted]

/-- Only a span can move. -/
theorem shifted_of_span_eq_none {d : Diagnostic} (h : d.span = none) (base : Nat) :
    d.shifted base = d := by
  obtain ⟨kind, severity, message, span, help⟩ := d
  cases h
  rfl

end Diagnostic

/-- Complaints split by severity. -/
structure Verdict where
  valid : Bool
  errors : List String
  warnings : List String
  deriving DecidableEq, Repr

/-- The texts of the errors and of the warnings, each in order; valid means no errors. -/
def Verdict.ofDiagnostics (ds : List Diagnostic) : Verdict where
  valid := !ds.any Diagnostic.isError
  errors := (ds.filter Diagnostic.isError).map Diagnostic.message
  warnings := (ds.filter fun d => !d.isError).map Diagnostic.message

end QueryLint
