import QueryLint.Proofs.Query.ColumnNames
import QueryLint.Proofs.Query.Verdicts
import QueryLint.Proofs.Schema.Enlargement

/-!
# Queries against larger schemas

A schema is asked for tables and columns, and what it does not have is reported.  So one expects a
schema that has more to lead to fewer reports.  For tables this is so.  A column, though, is looked
for only if its table is found, so a schema with another table may lack columns that were not looked
for before; but if no name leads to another table, there are no other reports on columns either
(`lacksColumn_of_within`).

What is found is all that counts: of two schemas that lie within each other neither leads to any
other complaint than the other one (`check_eq_of_within`).

* `check_enlarged`: what a larger schema changes, and that the case of names changes nothing.
-/

namespace QueryLint.Query

open Text
open Schema (Column Model Table)

variable {m m' : Model}

/-! ## What is missing -/

/-- With more tables fewer are missing. -/
theorem unknownTables_sublist (h : ∀ name, m.hasTable name = true → m'.hasTable name = true)
    (query : List Char) : (unknownTables m' query).Sublist (unknownTables m query) := by
  rw [unknownTables_eq, unknownTables_eq]
  refine (List.monotone_filter_right _ fun t ht => ?_).map _
  rw [Bool.not_eq_true', ← Bool.not_eq_true] at ht ⊢
  exact mt (h t.1) ht

/-- If no other tables are found, no other columns are missing. -/
theorem lacksColumn_of_within (h : m.Within m')
    (hback : ∀ name, m'.hasTable name = true → m.hasTable name = true) {table column : String}
    (hlacks : lacksColumn m' table column = true) : lacksColumn m table column = true := by
  rw [lacksColumn_eq_any, Option.any_eq_true] at hlacks ⊢
  obtain ⟨t', ht', hcolumn'⟩ := hlacks
  obtain ⟨t, ht⟩ := Option.isSome_iff_exists.1 (hback table (Option.isSome_of_eq_some ht'))
  refine ⟨t, ht, ?_⟩
  rw [Bool.not_eq_true', ← Bool.not_eq_true] at hcolumn' ⊢
  exact mt (h.hasColumn table t t' ht ht' column) hcolumn'

theorem unknownColumns_sublist (h : m.Within m')
    (hback : ∀ name, m'.hasTable name = true → m.hasTable name = true) (query : List Char) :
    (unknownColumns m' query).Sublist (unknownColumns m query) := by
  rw [unknownColumns_eq_map, unknownColumns_eq_map]
  exact (List.monotone_filter_right _ fun _ => lacksColumn_of_within h hback).map _

/-- Two schemas in which the same is found lead to the same complaints. -/
theorem check_eq_of_within (h : m.Within m') (h' : m'.Within m) (query : String) :
    check (some m') query = check (some m) query := by
  have htables := (unknownTables_sublist h.hasTable (trim query.toList)).antisymm
    (unknownTables_sublist h'.hasTable _)
  have hcolumns := (unknownColumns_sublist h h'.hasTable (trim query.toList)).antisymm
    (unknownColumns_sublist h' h.hasTable _)
  have hfindings :
      findings (some m') (trim query.toList) = findings (some m) (trim query.toList) := by
    rw [findings_eq_append, findings_eq_append, referenceFindings, referenceFindings, htables,
      hcolumns]
  rw [check, check, hfindings]

/-! ## Complaints and verdicts -/

/-- The complaints of one kind. -/
def complaintsOf (kind : DiagnosticKind) (schema : Option Model) (query : String) :
    List Diagnostic := (check schema query).filter fun d => d.kind = kind

theorem complaintsOf_eq (kind : DiagnosticKind) (schema : Option Model) (query : String) :
    complaintsOf kind schema query = complaints (byteSize (blankPrefix query.toList))
      ((findings schema (trim query.toList)).filter fun f => f.kind = kind) :=
  filter_check schema (fun k => k = kind) query

theorem complaintsOf_tableNotFound_sublist
    (h : ∀ name, m.hasTable name = true → m'.hasTable name = true) (query : String) :
    (complaintsOf .tableNotFound (some m') query).Sublist
      (complaintsOf .tableNotFound (some m) query) := by
  rw [complaintsOf_eq, complaintsOf_eq, filter_findings_tableNotFound,
    filter_findings_tableNotFound]
  exact (unknownTables_sublist h _).map _

theorem complaintsOf_columnNotFound_sublist (h : m.Within m')
    (hback : ∀ name, m'.hasTable name = true → m.hasTable name = true) (query : String) :
    (complaintsOf .columnNotFound (some m') query).Sublist
      (complaintsOf .columnNotFound (some m) query) := by
  rw [complaintsOf_eq, complaintsOf_eq, filter_findings_columnNotFound,
    filter_findings_columnNotFound]
  exact (unknownColumns_sublist h hback _).map _

/-- A verdict is positive if no complaint is an error. -/
theorem valid_validate_iff {schema : Option Model} {query : String} :
    (validate schema query).valid = true ↔ ∀ d ∈ check schema query, d.severity ≠ .error := by
  rw [validate, valid_ofDiagnostics, errors_ofDiagnostics, List.map_eq_nil_iff,
    List.filter_eq_nil_iff]
  simp only [decide_eq_true_eq, ne_eq]

/-- The severity of a complaint about a query is that of its kind. -/
theorem severity_of_mem_check {schema : Option Model} {query : String} {d : Diagnostic}
    (hd : d ∈ check schema query) : d.severity = d.kind.severity := by
  obtain ⟨f, -, rfl⟩ := List.mem_map.1 hd
  exact f.severity_eq

/-- If no other tables are found, no other errors are made. -/
theorem mem_check_of_within (h : m.Within m')
    (hback : ∀ name, m'.hasTable name = true → m.hasTable name = true) {query : String}
    {d : Diagnostic} (hd : d ∈ check (some m') query) (herror : d.severity = .error) :
    d ∈ check (some m) query := by
  have hmem {kind : DiagnosticKind} (hkind : d.kind = kind) :
      d ∈ complaintsOf kind (some m') query :=
    List.mem_filter.2 ⟨hd, decide_eq_true hkind⟩
  by_cases hreference : d.kind ∈ referenceKinds
  · simp only [referenceKinds, List.mem_cons, List.not_mem_nil, or_false] at hreference
    rcases hreference with hkind | hkind | hkind
    · -- that there is no schema is no error
      rw [severity_of_mem_check hd, hkind] at herror
      cases herror
    · have hsub := complaintsOf_tableNotFound_sublist h.hasTable query
      exact (List.mem_filter.1 (hsub.subset (hmem hkind))).1
    · have hsub := complaintsOf_columnNotFound_sublist h hback query
      exact (List.mem_filter.1 (hsub.subset (hmem hkind))).1
  · have hother : d ∈ (check (some m') query).filter fun d => d.kind ∉ referenceKinds :=
      List.mem_filter.2 ⟨hd, decide_eq_true hreference⟩
    rw [filter_check_notMem_referenceKinds (some m') (some m)] at hother
    exact (List.mem_filter.1 hother).1

/-- In a larger schema the missing tables are some of those that were missing before.  If no other
tables are found in it, the same is true of missing columns, and queries that were valid stay so.
If no two tables have one name up to case, the case in which the names of tables and columns are
written makes no difference. -/
theorem check_enlarged (query : String) (m m' : Model) :
    (m.Within m' →
      (complaintsOf .tableNotFound (some m') query).Sublist
          (complaintsOf .tableNotFound (some m) query) ∧
        ((∀ name, m'.hasTable name = true → m.hasTable name = true) →
          (complaintsOf .columnNotFound (some m') query).Sublist
              (complaintsOf .columnNotFound (some m) query) ∧
            ((validate (some m) query).valid = true →
              (validate (some m') query).valid = true))) ∧
      (m.HasDistinctNames → m.Recased m' →
        check (some m') query = check (some m) query) := by
  refine ⟨fun h => ⟨complaintsOf_tableNotFound_sublist h.hasTable query, fun hback => ⟨?_, ?_⟩⟩,
    fun hm h => ?_⟩
  · exact complaintsOf_columnNotFound_sublist h hback query
  · intro hvalid
    rw [valid_validate_iff] at hvalid ⊢
    exact fun d hd herror => hvalid d (mem_check_of_within h hback hd herror) herror
  · have hm' : m'.HasDistinctNames := Schema.Model.InStep.hasDistinctNames h hm
    exact check_eq_of_within (h.within hm) (h.symm.within hm') query

/-- A schema with one table. -/
def oneTable (name : String) (columns : List String) : Model :=
  ⟨.ofList [(name, ⟨name, none, .ofList (columns.map fun c => (c, Column.ofType "")), none,
    .empty⟩)]⟩

/-- A column is added to a table, and its names are written in capital letters. -/
theorem check_users_enlarged :
    let users := oneTable "users" ["id"]
    let more := oneTable "users" ["id", "name"]
    let query := "SELECT Users.id FROM Users LIMIT 1"
    users.Within more ∧ (∀ name, more.hasTable name = true → users.hasTable name = true) ∧
      users.HasDistinctNames ∧ users.Recased (oneTable "USERS" ["ID"]) ∧
      (complaintsOf .tableNotFound (some more) query).Sublist
        (complaintsOf .tableNotFound (some users) query) ∧
      (validate (some users) query).valid = true ∧ (validate (some more) query).valid = true ∧
      check (some (oneTable "USERS" ["ID"])) query = check (some users) query := by
  intro users more query
  have hstep : users.InStep (fun t t' => t.columnNames ⊆ t'.columnNames) more :=
    .cons ⟨rfl, by decide⟩ .nil
  have hdistinct : users.HasDistinctNames := by decide
  have hwithin : users.Within more := hstep.within hdistinct fun t t' hsub column => by
    rw [Table.hasColumn_iff, Table.hasColumn_iff]
    exact fun ⟨key, hkey, hsame⟩ => ⟨key, hsub hkey, hsame⟩
  have hback : ∀ name, more.hasTable name = true → users.hasTable name = true := by
    intro name
    rw [Model.hasTable_iff_mem, Model.hasTable_iff_mem, hstep.map_tableNames_eq]
    exact id
  have hrecased : users.Recased (oneTable "USERS" ["ID"]) := .cons ⟨by decide, by decide⟩ .nil
  have hvalid : (validate (some users) query).valid = true := by decide +kernel
  have hlarger := (check_enlarged query users more).1 hwithin
  exact ⟨hwithin, hback, hdistinct, hrecased, hlarger.1, hvalid, (hlarger.2 hback).2 hvalid,
    (check_enlarged query users _).2 hdistinct hrecased⟩

end QueryLint.Query
