import Mathlib.Data.List.Basic
import QueryLint.Query.Check

/-!
# Verdicts

A verdict is the complaints about a query in two lists, the errors and the warnings.  Names and
expressions of the query and of the schema stand in their texts, whatever they look like, and still
no text is in both lists: all texts of a kind have one opening, and no opening begins with another
one.  So a text tells its kind, and the kind its severity.

* `opening?`: how the texts of each kind begin.
* `kind_eq_of_message_eq`: findings with one text are of one kind.
* `validate_partition`: what a verdict consists of.
-/

namespace QueryLint.Query

open Schema (Model)

/-! ## Openings -/

/-- How the texts of each kind begin.  Where a text has parts that vary, the opening ends in front
of the first of them.  The last three kinds are about schemas, and no query has them. -/
def opening? : DiagnosticKind → Option String
  | .tableNotFound => some "Table '"
  | .columnNotFound => some "Column '"
  | .unterminatedString => some "Syntax error: unterminated string"
  | .unterminatedIdentifier => some "Syntax error: unterminated identifier"
  | .unbalancedParentheses =>
    some "Syntax error: unbalanced parentheses (unexpected ')' at offset "
  | .unclosedParenthesis => some "Syntax error: unclosed parenthesis ("
  | .missingTableName => some "Syntax error: missing table name"
  | .missingColumnList => some "Syntax error: missing column list"
  | .unfilteredMutation => some "Dangerous operation: "
  | .injectedDrop => some "Possible SQL injection: statement terminator"
  | .injectedComment => some "Possible SQL injection: trailing"
  | .injectedTautology => some "Possible SQL injection: 'OR"
  | .noSchema => some "No schema loaded"
  | .missingGroupBy => some "Aggregate function"
  | .groupByNotSelected => some "GROUP BY column '"
  | .possibleCrossJoin => some "JOIN without"
  | .unqualifiedJoinColumn => some "Unqualified column"
  | .unboundedSelect => some "SELECT without"
  | .danglingForeignKey | .malformedForeignKey | .undeclaredKeyColumn => none

/-- No opening begins with the one of another kind. -/
theorem eq_of_prefix_opening :
    ∀ k ∈ DiagnosticKind.all, ∀ l ∈ DiagnosticKind.all, ∀ s ∈ opening? k, ∀ t ∈ opening? l,
      s.toList <+: t.toList → k = l := by
  decide +kernel

/-- A text that begins with `first`. -/
theorem prefix_append (first part rest : String) :
    first.toList <+: (first ++ part ++ rest).toList := by
  rw [String.append_assoc, String.toList_append]
  exact List.prefix_append _ _

/-- The text of a finding begins with the opening of its kind. -/
theorem exists_opening (f : Finding) : ∃ s ∈ opening? f.kind, s.toList <+: f.message.toList := by
  cases f with
  | columnNotFound table column =>
    refine ⟨_, rfl, ?_⟩
    show _ <+: ("Column '" ++ column ++ "' not found in table '" ++ table ++ "'").toList
    rw [String.append_assoc, String.append_assoc]
    exact prefix_append _ column _
  | tableNotFound name => exact ⟨_, rfl, prefix_append _ name _⟩
  | unexpectedClose offset => exact ⟨_, rfl, prefix_append _ offset.repr _⟩
  | unclosed count => exact ⟨_, rfl, prefix_append _ count.repr _⟩
  | groupByNotSelected expression => exact ⟨_, rfl, prefix_append _ expression _⟩
  | unfilteredMutation operation => exact ⟨_, rfl, prefix_append _ operation _⟩
  | _ =>
    -- The text is fixed, wherever the finding is.
    refine ⟨_, rfl, ?_⟩
    conv in Finding.message _ => whnf
    decide +kernel

/-- Findings with the same text are of the same kind, whatever names are quoted in it. -/
theorem kind_eq_of_message_eq {f g : Finding} (h : f.message = g.message) : f.kind = g.kind := by
  obtain ⟨s, hs, hf⟩ := exists_opening f
  obtain ⟨t, ht, hg⟩ := exists_opening g
  rw [h] at hf
  have hkf := DiagnosticKind.mem_all f.kind
  have hkg := DiagnosticKind.mem_all g.kind
  -- Both openings are at the start of one text, so one of them begins with the other one.
  rcases List.prefix_or_prefix_of_prefix hf hg with hst | hts
  · exact eq_of_prefix_opening _ hkf _ hkg s hs t ht hst
  · exact (eq_of_prefix_opening _ hkg _ hkf t ht s hs hts).symm

/-! ## The two lists -/

/-- The complaints about a query are findings whose spans have been moved. -/
theorem exists_finding {schema : Option Model} {query : String} {d : Diagnostic}
    (hd : d ∈ check schema query) :
    ∃ f : Finding, d.severity = f.severity ∧ d.message = f.message := by
  rw [check, List.mem_map] at hd
  obtain ⟨f, -, rfl⟩ := hd
  exact ⟨f, rfl, rfl⟩

/-- Complaints about queries that have the same text are equally bad. -/
theorem severity_eq_of_message_eq {schema : Option Model} {query : String} {d e : Diagnostic}
    (hd : d ∈ check schema query) (he : e ∈ check schema query) (h : d.message = e.message) :
    d.severity = e.severity := by
  obtain ⟨f, hfs, hfm⟩ := exists_finding hd
  obtain ⟨g, hgs, hgm⟩ := exists_finding he
  rw [hfm, hgm] at h
  rw [hfs, hgs, Finding.severity_eq, Finding.severity_eq, kind_eq_of_message_eq h]

section

variable (ds : List Diagnostic)

/-- The errors of a verdict are the texts of the complaints that are errors. -/
theorem errors_ofDiagnostics :
    (Verdict.ofDiagnostics ds).errors =
      (ds.filter (·.severity = .error)).map Diagnostic.message := by
  refine congrArg (List.map Diagnostic.message) (List.filter_congr fun d _ => ?_)
  cases hd : d.severity <;> simp [Diagnostic.isError, hd]

/-- The warnings of a verdict are the texts of the complaints that are warnings. -/
theorem warnings_ofDiagnostics :
    (Verdict.ofDiagnostics ds).warnings =
      (ds.filter (·.severity = .warning)).map Diagnostic.message := by
  refine congrArg (List.map Diagnostic.message) (List.filter_congr fun d _ => ?_)
  cases hd : d.severity <;> simp [Diagnostic.isError, hd]

/-- A verdict is positive if there are no errors. -/
theorem valid_ofDiagnostics :
    (Verdict.ofDiagnostics ds).valid = true ↔ (Verdict.ofDiagnostics ds).errors = [] := by
  simp [Verdict.ofDiagnostics]

/-- Every complaint is on one side of a verdict. -/
theorem perm_ofDiagnostics :
    ((Verdict.ofDiagnostics ds).errors ++ (Verdict.ofDiagnostics ds).warnings).Perm
      (ds.map Diagnostic.message) := by
  rw [Verdict.ofDiagnostics, ← List.map_append]
  exact (List.filter_append_perm _ _).map _

end

/-- A verdict has the texts of the errors and those of the warnings, each in the order of the
complaints, and is positive if there are no errors.  Nothing is left out, and no text is on both
sides. -/
theorem validate_partition (schema : Option Model) (query : String) :
    (validate schema query).errors =
        ((check schema query).filter (·.severity = .error)).map Diagnostic.message ∧
      (validate schema query).warnings =
        ((check schema query).filter (·.severity = .warning)).map Diagnostic.message ∧
      ((validate schema query).valid = true ↔ (validate schema query).errors = []) ∧
      List.Disjoint (validate schema query).errors (validate schema query).warnings ∧
      ((validate schema query).errors ++ (validate schema query).warnings).Perm
        ((check schema query).map Diagnostic.message) := by
  rw [validate]
  refine ⟨errors_ofDiagnostics _, warnings_ofDiagnostics _, valid_ofDiagnostics _, ?_,
    perm_ofDiagnostics _⟩
  rw [errors_ofDiagnostics, warnings_ofDiagnostics]
  intro text he hw
  obtain ⟨d, hd, rfl⟩ := List.mem_map.1 he
  obtain ⟨e, he, hde⟩ := List.mem_map.1 hw
  rw [List.mem_filter, decide_eq_true_iff] at hd he
  have hs := severity_eq_of_message_eq he.1 hd.1 hde
  rw [hd.2, he.2] at hs
  exact absurd hs (by decide)

end QueryLint.Query
