import QueryLint.Proofs.InStep
import QueryLint.Proofs.Schema.Tables

/-!
# Larger schemas

One schema lies within another one if whatever is found in it is found in the other one as well.
Names are looked up, so this is not just about what the schemas list: a table that is listed under
exactly the given name comes before all others, and a schema that lists more tables may find another
one.  As long as no two keys are equal up to case, this makes no difference
(`Model.table?_eq_find?`), and schemas that list the same keys up to case find the same tables
(`Model.table?_rel`).

* `Model.Within`: a schema lies within another one.
* `Model.Recased`: the names of tables and columns have been written in another case.
* `Model.within_of_forall₂`: schemas that list the same tables, with more columns in one of them.
* `Model.Recased.within`: names in another case are the same names.
-/

namespace QueryLint.Schema

open Text (asciiFold sameIgnoringCase)

variable {m m' : Model}

/-- Every table that is found in the schema is found in the other one, and there it has the same
columns or more. -/
structure Model.Within (m m' : Model) : Prop where
  hasTable : ∀ name, m.hasTable name = true → m'.hasTable name = true
  hasColumn : ∀ name t t', m.table? name = some t → m'.table? name = some t' →
    ∀ column, t.hasColumn column = true → t'.hasColumn column = true

/-- No two keys are equal up to case. -/
def Model.HasDistinctNames (m : Model) : Prop := (m.tableNames.map asciiFold).Nodup

instance (m : Model) : Decidable m.HasDistinctNames :=
  inferInstanceAs (Decidable (m.tableNames.map asciiFold).Nodup)

/-- Two schemas list the same keys up to case, and under each of them tables that are as `R`
says. -/
def Model.InStep (R : Table → Table → Prop) (m m' : Model) : Prop :=
  List.Forall₂ (fun e e' => asciiFold e.1 = asciiFold e'.1 ∧ R e.2 e'.2)
    m.tables.entries m'.tables.entries

/-- The schema with the names of its tables and columns in another case.  Nothing is said about
what else there is in a table. -/
def Model.Recased : Model → Model → Prop :=
  Model.InStep fun t t' => t.columnNames.map asciiFold = t'.columnNames.map asciiFold

/-! ## Keys that are not equal up to case -/

/-- The first key that is equal to a name up to case is the name itself, if that is a key. -/
theorem Model.table?_eq_find? (h : m.HasDistinctNames) (name : String) :
    m.table? name = m.tables.find? fun key => sameIgnoringCase key name := by
  rw [Model.table?]
  cases hget : m.tables.get? name with
  | none => rw [Option.none_or]
  | some t =>
    obtain ⟨front, behind, hentries, -⟩ := List.lookup_eq_some_iff.1 hget
    rw [HasDistinctNames, tableNames, OrderedMap.keys, hentries, List.map_map, List.map_append,
      List.nodup_append] at h
    obtain ⟨-, -, hdisjoint⟩ := h
    have hfront : front.find? (fun e => sameIgnoringCase e.1 name) = none := by
      rw [List.find?_eq_none]
      intro e he hsame
      refine hdisjoint _ (List.mem_map_of_mem he) _ List.mem_cons_self ?_
      exact Text.sameIgnoringCase_iff.1 hsame
    have hfirst : m.tables.entries.find? (fun e => sameIgnoringCase e.1 name) = some (name, t) := by
      rw [hentries, List.find?_append, hfront, Option.none_or]
      exact List.find?_cons_of_pos (Text.sameIgnoringCase_iff.2 rfl)
    rw [Option.some_or, OrderedMap.find?, hfirst, Option.map_some]

/-- A table is found if its name is that of a key up to case. -/
theorem Model.hasTable_iff_mem (m : Model) (name : String) :
    m.hasTable name = true ↔ asciiFold name ∈ m.tableNames.map asciiFold := by
  simp only [Model.hasTable_eq_any, List.any_eq_true, Text.sameIgnoringCase_iff, List.mem_map]

namespace Model.InStep

variable {R : Table → Table → Prop}

theorem map_tableNames_eq (h : m.InStep R m') :
    m.tableNames.map asciiFold = m'.tableNames.map asciiFold := by
  rw [tableNames, tableNames, OrderedMap.keys, OrderedMap.keys, List.map_map, List.map_map,
    ← List.forall₂_eq_eq_eq, List.forall₂_map_left_iff, List.forall₂_map_right_iff]
  exact h.imp fun _ _ hboth => hboth.1

theorem hasDistinctNames (h : m.InStep R m') (hm : m.HasDistinctNames) : m'.HasDistinctNames := by
  rwa [HasDistinctNames, ← h.map_tableNames_eq]

/-- Such schemas find tables in step. -/
theorem table?_rel (h : m.InStep R m') (hm : m.HasDistinctNames) (name : String) :
    Option.Rel R (m.table? name) (m'.table? name) := by
  rw [table?_eq_find? hm, table?_eq_find? (h.hasDistinctNames hm)]
  refine map_rel (find?_rel h fun e e' hboth => ?_) fun _ _ hboth => hboth.2
  rw [Bool.eq_iff_iff, Text.sameIgnoringCase_iff, Text.sameIgnoringCase_iff, hboth.1]

/-- A schema lies within one with the same tables in which no table has lost a column. -/
theorem within (h : m.InStep R m') (hm : m.HasDistinctNames)
    (hR : ∀ t t', R t t' → ∀ column, t.hasColumn column = true → t'.hasColumn column = true) :
    m.Within m' where
  hasTable name hname := by
    rwa [hasTable_iff_mem, ← h.map_tableNames_eq, ← hasTable_iff_mem]
  hasColumn name t t' ht ht' := by
    have hrel := h.table?_rel hm name
    rw [ht, ht'] at hrel
    cases hrel with
    | some hcolumns => exact hR t t' hcolumns

end Model.InStep

/-! ## Names in another case -/

/-- Columns that are listed in another case are the same columns. -/
theorem Table.hasColumn_congr {t t' : Table}
    (h : t.columnNames.map asciiFold = t'.columnNames.map asciiFold) (column : String) :
    t.hasColumn column = true ↔ t'.hasColumn column = true := by
  have hmem (t : Table) : t.hasColumn column = true ↔
      asciiFold column ∈ t.columnNames.map asciiFold := by
    simp only [Table.hasColumn_iff, Text.sameIgnoringCase_iff, List.mem_map]
  rw [hmem, hmem, h]

namespace Model.Recased

theorem symm (h : m.Recased m') : m'.Recased m :=
  (h.imp fun _ _ hboth => ⟨hboth.1.symm, hboth.2.symm⟩).flip

/-- A schema lies within the same one with its names in another case. -/
theorem within (h : m.Recased m') (hm : m.HasDistinctNames) : m.Within m' :=
  InStep.within h hm fun _ _ hnames column => (Table.hasColumn_congr hnames column).1

end Model.Recased

end QueryLint.Schema
