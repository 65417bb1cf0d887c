import QueryLint.Proofs.Query.Order

/-!
# What depends on the schema

Each kind of complaint comes from one pass: no code is found by two passes (`Pass.eq_of_mem_codes`).
So the complaints of some kinds can be looked for in what one pass finds, if all of these kinds are
its own (`filter_findings_run`); if they are all that it can find, they are all of what it finds
(`filter_findings_mem_kinds`).

A schema is asked about references and about nothing else.  So the complaints fall into two parts:
those of the kinds in `referenceKinds`, all of which come from one pass, and the others, which are
the same for all schemas and without one (`filter_check_notMem_referenceKinds`).  Without a schema
the first part is a single complaint that there is none (`filter_check_none`).
-/

namespace QueryLint.Query

open Schema (Model)
open Text

/-! ## What only one pass finds -/

theorem letters_referenceShape (schema : Option Model) :
    ∀ c ∈ letters (referenceShape schema), c ∈ ["W0001", "E0001", "E0002"] := by
  cases schema with
  | none => decide
  | some m => exact (by decide : ∀ c ∈ ["E0001", "E0002"], c ∈ ["W0001", "E0001", "E0002"])

/-- The codes of what a pass can find. -/
def Pass.codes : Pass → List String
  | balance => letters balanceShape
  | references => ["W0001", "E0001", "E0002"]
  | grouping => letters groupingShape
  | joins => letters joinShape
  | safety => letters safetyShape

theorem Pass.code_mem_codes (p : Pass) (schema : Option Model) (query : List Char) :
    ∀ f ∈ p.run schema query, f.kind.code ∈ p.codes := by
  intro f hf
  have hcode : f.kind.code ∈ codesOf (p.run schema query) := List.mem_map_of_mem hf
  cases p with
  | balance => exact mem_letters (codesOf_balanceFindings query) _ hcode
  | references =>
    exact letters_referenceShape schema _
      (mem_letters (codesOf_referenceFindings schema query) _ hcode)
  | grouping => exact mem_letters (codesOf_groupingFindings query) _ hcode
  | joins => exact mem_letters (codesOf_joinFindings query) _ hcode
  | safety => exact mem_letters (codesOf_safetyFindings query) _ hcode

/-- No code is found by two passes. -/
theorem Pass.eq_of_mem_codes {p q : Pass} : ∀ c ∈ p.codes, c ∈ q.codes → p = q := by
  cases p <;> cases q <;> decide

section OnePass

variable {keep : DiagnosticKind → Bool}

/-- Findings of kinds that a pass can find are found by this pass. -/
theorem filter_findings_run (p : Pass) (hkeep : ∀ k, keep k = true → k.code ∈ p.codes)
    (schema : Option Model) (query : List Char) :
    (findings schema query).filter (fun f => keep f.kind) =
      (p.run schema query).filter fun f => keep f.kind := by
  have hother (q : Pass) (hq : q ≠ p) :
      (q.run schema query).filter (fun f => keep f.kind) = [] := by
    rw [List.filter_eq_nil_iff]
    intro f hf hkind
    exact hq (Pass.eq_of_mem_codes _ (q.code_mem_codes schema query f hf) (hkeep _ hkind))
  have hsplit : (fun q => (Pass.run schema query q).filter fun f => keep f.kind) =
      fun q => if q = p then (p.run schema query).filter fun f => keep f.kind else [] := by
    ext1 q
    by_cases hq : q = p
    · rw [if_pos hq, hq]
    · rw [if_neg hq, hother q hq]
  rw [findings, List.filter_flatMap, hsplit]
  -- one of the passes in the list is `p`
  cases p <;> exact List.append_nil _

/-- The same for complaints. -/
theorem filter_check_run (p : Pass) (hkeep : ∀ k, keep k = true → k.code ∈ p.codes)
    (schema : Option Model) (sql : String) :
    (check schema sql).filter (fun d => keep d.kind) =
      complaints (byteSize (blankPrefix sql.toList))
        ((p.run schema (trim sql.toList)).filter fun f => keep f.kind) := by
  rw [filter_check schema keep, filter_findings_run p hkeep]

/-- A pass finds what is of its kinds, and nothing else. -/
theorem filter_findings_mem_kinds (p : Pass) {kinds : List DiagnosticKind}
    (hkinds : ∀ k, k ∈ kinds ↔ k.code ∈ p.codes) (schema : Option Model) (query : List Char) :
    (findings schema query).filter (fun f => f.kind ∈ kinds) = p.run schema query := by
  have hkeep : ∀ k, decide (k ∈ kinds) = true → k.code ∈ p.codes :=
    fun k hk => (hkinds k).1 (of_decide_eq_true hk)
  rw [filter_findings_run p hkeep, List.filter_eq_self]
  exact fun f hf => decide_eq_true ((hkinds f.kind).2 (p.code_mem_codes schema query f hf))

theorem filter_check_mem_kinds (p : Pass) {kinds : List DiagnosticKind}
    (hkinds : ∀ k, k ∈ kinds ↔ k.code ∈ p.codes) (schema : Option Model) (sql : String) :
    (check schema sql).filter (fun d => d.kind ∈ kinds) =
      complaints (byteSize (blankPrefix sql.toList)) (p.run schema (trim sql.toList)) := by
  rw [filter_check schema fun k => k ∈ kinds, filter_findings_mem_kinds p hkinds]

/-- What is about grouping is found by one pass. -/
theorem filter_findings_grouping (hkeep : ∀ k, keep k = true → k.code ∈ letters groupingShape)
    (schema : Option Model) (query : List Char) :
    (findings schema query).filter (fun f => keep f.kind) =
      (groupingFindings query).filter fun f => keep f.kind :=
  filter_findings_run .grouping hkeep schema query

/-- The complaints of one kind about joins. -/
theorem filter_check_join {k : DiagnosticKind} (hk : k.code ∈ letters joinShape)
    (schema : Option Model) (sql : String) :
    (check schema sql).filter (fun d => d.kind = k) =
      complaints (byteSize (blankPrefix sql.toList))
        ((joinFindings (trim sql.toList)).filter fun f => f.kind = k) := by
  have hkeep : ∀ k', decide (k' = k) = true → k'.code ∈ letters joinShape := by
    intro k' hk'
    rwa [of_decide_eq_true hk']
  exact filter_check_run .joins hkeep schema sql

end OnePass

/-! ## References -/

/-- The kinds of complaints that depend on the schema. -/
def referenceKinds : List DiagnosticKind := [.noSchema, .tableNotFound, .columnNotFound]

theorem mem_referenceKinds_iff (k : DiagnosticKind) :
    k ∈ referenceKinds ↔ k.code ∈ Pass.references.codes := by
  cases k <;> decide

/-- What is about references is found by one pass, and this pass finds nothing else. -/
theorem kind_mem_referenceKinds_iff {p : Pass} {schema : Option Model} {query : List Char}
    {f : Finding} (hf : f ∈ p.run schema query) :
    f.kind ∈ referenceKinds ↔ p = .references := by
  rw [mem_referenceKinds_iff]
  have hcode := p.code_mem_codes schema query f hf
  constructor
  · exact Pass.eq_of_mem_codes _ hcode
  · rintro rfl
    exact hcode

/-- Only one pass finds something of such a kind. -/
theorem filter_findings_kind_eq {k : DiagnosticKind} (hk : k ∈ referenceKinds)
    (schema : Option Model) (query : List Char) :
    (findings schema query).filter (fun f => f.kind = k) =
      (referenceFindings schema query).filter fun f => f.kind = k := by
  have hkeep : ∀ k', decide (k' = k) = true → k'.code ∈ Pass.references.codes := by
    intro k' hk'
    rw [of_decide_eq_true hk']
    exact (mem_referenceKinds_iff k).1 hk
  exact filter_findings_run .references hkeep schema query

theorem filter_findings_notMem_referenceKinds (schema : Option Model) (query : List Char) :
    (findings schema query).filter (fun f => f.kind ∉ referenceKinds) =
      balanceFindings query ++
        (groupingFindings query ++ (joinFindings query ++ safetyFindings query)) := by
  have hall (p : Pass) (hp : p ≠ .references) :
      (p.run schema query).filter (fun f => f.kind ∉ referenceKinds) = p.run schema query :=
    List.filter_eq_self.2 fun f hf =>
      decide_eq_true (mt (kind_mem_referenceKinds_iff hf).1 hp)
  have hnone : (Pass.references.run schema query).filter (fun f => f.kind ∉ referenceKinds) = [] :=
    List.filter_eq_nil_iff.2 fun f hf hkind =>
      of_decide_eq_true hkind ((kind_mem_referenceKinds_iff hf).2 rfl)
  rw [findings, List.filter_flatMap]
  simp only [Pass.all, List.flatMap_cons, List.flatMap_nil, List.append_nil, hnone,
    hall .balance (by decide), hall .grouping (by decide), hall .joins (by decide),
    hall .safety (by decide), List.nil_append]
  rfl

/-- Without a schema one complaint says so, and no other one is about references. -/
theorem filter_check_none (sql : String) :
    (check none sql).filter (fun d => d.kind ∈ referenceKinds) = [Finding.noSchema.diagnostic] := by
  rw [filter_check_mem_kinds .references mem_referenceKinds_iff]
  rfl

/-- The complaints that are not about references are the same for all schemas. -/
theorem filter_check_notMem_referenceKinds (schema schema' : Option Model) (sql : String) :
    (check schema sql).filter (fun d => d.kind ∉ referenceKinds) =
      (check schema' sql).filter (fun d => d.kind ∉ referenceKinds) := by
  rw [filter_check schema (fun k => k ∉ referenceKinds) sql,
    filter_check schema' (fun k => k ∉ referenceKinds) sql,
    filter_findings_notMem_referenceKinds, filter_findings_notMem_referenceKinds]

end QueryLint.Query
