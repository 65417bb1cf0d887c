import QueryLint.Proofs.Schema.Reports

/-!
# The columns of keys

A primary key and a foreign key name columns of their own table.  One expects them to be looked up
as every other column is, so that the case of letters does not matter.  But while a table is built
they are compared letter by letter, and a key whose column is declared in another case is reported
as if it had none (`undeclaredKey_in_other_case`), although a query that names the column in the
same way finds it.

* `TableDocument.keys`: the keys of a declaration, each with what is said if its column is missing.
* `Table.HasOnlyInOtherCase`: the column is found, but not as it is spelled.
* `undeclaredKeys_spec`: which keys are reported, and when these are the keys without a column.
-/

namespace QueryLint.Schema

open Text (sameIgnoringCase)

/-- The keys of a declaration: the primary key, and then the foreign keys with a reference that can
be read.  With each column comes what is to be said if the table does not have it. -/
def TableDocument.keys (name : String) (d : TableDocument) : List (String × Finding) :=
  (d.primaryKey.map fun key => (key, Finding.undeclaredPrimaryKey key name)).toList ++
    (d.foreignKeys.entries.filter fun e => (Reference.ofString? e.2).isSome).map fun e =>
      (e.1, .undeclaredForeignKey e.1 name)

/-- The table has the column, but in another case of letters only. -/
def Table.HasOnlyInOtherCase (t : Table) (column : String) : Prop :=
  column ∉ t.columnNames ∧ ∃ key ∈ t.columnNames, sameIgnoringCase key column = true

/-- What is found about keys whose column is not declared. -/
def BuiltTable.undeclaredKeys (b : BuiltTable) : List Finding :=
  b.findings.filter fun f => f.kind = .undeclaredKeyColumn

/-- A column is not there as it is spelled, either because it is not found at all, or because it is
found in another case of letters. -/
theorem Table.notMem_columnNames_iff {t : Table} {column : String} :
    column ∉ t.columnNames ↔ t.hasColumn column = false ∨ t.HasOnlyInOtherCase column := by
  constructor
  · intro habsent
    cases hcolumn : t.hasColumn column with
    | false => exact Or.inl rfl
    | true => exact Or.inr ⟨habsent, Table.hasColumn_iff.1 hcolumn⟩
  · rintro (hcolumn | hother) hmem
    · have hself : sameIgnoringCase column column = true := Text.sameIgnoringCase_iff.2 rfl
      exact absurd (Table.hasColumn_iff.2 ⟨column, hmem, hself⟩) (by simp [hcolumn])
    · exact hother.1 hmem

/-! ## The keys that are reported -/

/-- What the test of one key leaves of it. -/
theorem filter_ite_contains {d : TableDocument} {name : String} {column : String} {f : Finding}
    (hf : f.kind = .undeclaredKeyColumn) :
    ((if (d.columns.map ColumnDocument.build).contains column then [] else [f]).filter
        fun f => f.kind = .undeclaredKeyColumn) =
      ([(column, f)].filter fun k => k.1 ∉ (d.build name).table.columnNames).map Prod.snd := by
  have hcontains : (d.columns.map ColumnDocument.build).contains column = true ↔
      column ∈ (d.build name).table.columnNames := OrderedMap.isSome_get?_iff
  by_cases hcolumn : column ∈ (d.build name).table.columnNames
  · rw [if_pos (hcontains.2 hcolumn)]
    simp [hcolumn]
  · rw [if_neg (mt hcontains.1 hcolumn)]
    simp [hcolumn, hf]

/-- The keys that are reported are those whose column is not there as it is spelled, each once and
in their order. -/
theorem undeclaredKeys_eq (name : String) (d : TableDocument) :
    (d.build name).undeclaredKeys =
      ((d.keys name).filter fun k => k.1 ∉ (d.build name).table.columnNames).map Prod.snd := by
  have hfindings : (d.build name).findings =
      primaryKeyFindings name (d.columns.map ColumnDocument.build) d.primaryKey ++
        d.foreignKeys.entries.flatMap fun e =>
          foreignKeyFindings name (d.columns.map ColumnDocument.build) e.1 e.2 := rfl
  rw [BuiltTable.undeclaredKeys, hfindings, TableDocument.keys, List.filter_append,
    List.filter_append, List.map_append]
  congr 1
  · cases hkey : d.primaryKey with
    | none => rfl
    | some key => exact filter_ite_contains rfl
  · induction d.foreignKeys.entries with
    | nil => rfl
    | cons e es ih =>
      rw [List.flatMap_cons, List.filter_append, ih, foreignKeyFindings]
      cases hread : Reference.ofString? e.2 with
      | none =>
        -- what is said of a reference that cannot be read is of another kind
        rw [List.filter_cons_of_neg (l := es) (by simp [hread])]
        rfl
      | some r =>
        rw [List.filter_cons_of_pos (l := es) (by simp [hread]), List.map_cons,
          ← List.singleton_append (l := List.map _ _), List.filter_append, List.map_append]
        exact congrArg (· ++ _) (filter_ite_contains rfl)

/-- What is said of a key names its column. -/
theorem eq_of_mem_keys {d : TableDocument} {name : String} {k k' : String × Finding}
    (hk : k ∈ d.keys name) (hk' : k' ∈ d.keys name) (h : k.2 = k'.2) : k = k' := by
  simp only [TableDocument.keys, List.mem_append, Option.mem_toList, Option.map_eq_some_iff,
    List.mem_map] at hk hk'
  obtain ⟨a, -, rfl⟩ | ⟨a, -, rfl⟩ := hk <;> obtain ⟨b, -, rfl⟩ | ⟨b, -, rfl⟩ := hk' <;>
    simp_all

/-- A key is reported exactly if its column is not there as it is spelled. -/
theorem mem_undeclaredKeys_iff {d : TableDocument} {name : String} {k : String × Finding}
    (hk : k ∈ d.keys name) :
    k.2 ∈ (d.build name).undeclaredKeys ↔ k.1 ∉ (d.build name).table.columnNames := by
  rw [undeclaredKeys_eq, List.mem_map]
  constructor
  · rintro ⟨k', hk', hsame⟩
    obtain ⟨hmem, habsent⟩ := List.mem_filter.1 hk'
    rw [← eq_of_mem_keys hmem hk hsame]
    exact of_decide_eq_true habsent
  · exact fun habsent => ⟨k, List.mem_filter.2 ⟨hk, decide_eq_true habsent⟩, rfl⟩

/-- The reported keys of a declaration are those whose column is not found, and those whose column
is found in another case of letters only; each is reported once, in the order of the declaration.
They are just the keys whose column is not found if and only if no key has its column in another
case. -/
theorem undeclaredKeys_spec (name : String) (d : TableDocument) :
    (d.build name).undeclaredKeys =
        ((d.keys name).filter fun k => k.1 ∉ (d.build name).table.columnNames).map Prod.snd ∧
      (∀ k ∈ d.keys name, k.2 ∈ (d.build name).undeclaredKeys ↔
        (d.build name).table.hasColumn k.1 = false ∨
          (d.build name).table.HasOnlyInOtherCase k.1) ∧
      ((∀ k ∈ d.keys name, k.2 ∈ (d.build name).undeclaredKeys ↔
          (d.build name).table.hasColumn k.1 = false) ↔
        ∀ k ∈ d.keys name, ¬ (d.build name).table.HasOnlyInOtherCase k.1) := by
  have hreported : ∀ k ∈ d.keys name, k.2 ∈ (d.build name).undeclaredKeys ↔
      (d.build name).table.hasColumn k.1 = false ∨
        (d.build name).table.HasOnlyInOtherCase k.1 := fun k hk =>
    (mem_undeclaredKeys_iff hk).trans Table.notMem_columnNames_iff
  refine ⟨undeclaredKeys_eq name d, hreported, fun h k hk hother => ?_, fun h k hk => ?_⟩
  · have habsent := (h k hk).1 ((hreported k hk).2 (Or.inr hother))
    exact absurd (Table.hasColumn_iff.2 hother.2) (by simp [habsent])
  · rw [hreported k hk, or_iff_left (h k hk)]

/-- A table whose keys are on the columns `id` and `user_id`, in capital letters. -/
def capitalKeys : TableDocument where
  description := none
  primaryKey := some "ID"
  columns := .ofList [("id", ⟨some "int", none⟩), ("user_id", ⟨some "int", none⟩)]
  foreignKeys := .ofList [("User_ID", "t.id")]

/-- Both keys are on columns that are found, and both are reported. -/
theorem undeclaredKey_in_other_case :
    (∀ k ∈ capitalKeys.keys "t", (capitalKeys.build "t").table.hasColumn k.1 = true) ∧
      (capitalKeys.build "t").findings =
        [.undeclaredPrimaryKey "ID" "t", .undeclaredForeignKey "User_ID" "t"] := by
  decide +kernel

end QueryLint.Schema
