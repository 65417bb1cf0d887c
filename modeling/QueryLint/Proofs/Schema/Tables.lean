import Mathlib.Data.List.Induction
import QueryLint.Schema.Builder

/-!
# Tables under their names

In a schema that was built from documents each table is stored under its own name
(`named_model`).  So the name that a table carries leads back to a table
(`Named.hasTable_name`), and what is printed with the names of tables can be read again.

* `Model.Named`: each table is stored under its name.
* `Model.Named.asciiFold_name_eq`: a table that is found has the name that was looked up, up to case.
-/

namespace QueryLint

namespace OrderedMap

variable {α : Type}

/-- What a declaration leaves in a map is the new pair or was there before. -/
theorem mem_of_mem_insertPairs {key : String} {value : α} {es : List (String × α)}
    {e : String × α} (h : e ∈ insertPairs key value es) : e = (key, value) ∨ e ∈ es := by
  induction es with
  | nil => exact Or.inl (List.mem_singleton.1 h)
  | cons d es ih =>
    rw [insertPairs] at h
    by_cases hd : d.1 = key
    · rw [if_pos hd] at h
      rcases List.mem_cons.1 h with rfl | h
      · exact Or.inl rfl
      · exact Or.inr (List.mem_cons_of_mem d h)
    · rw [if_neg hd] at h
      rcases List.mem_cons.1 h with rfl | h
      · exact Or.inr List.mem_cons_self
      · exact (ih h).imp_right (List.mem_cons_of_mem d)

/-- A map has no other pairs than those that were declared. -/
theorem mem_of_mem_ofList {es : List (String × α)} {e : String × α}
    (h : e ∈ (ofList es).entries) : e ∈ es := by
  induction es using List.reverseRecOn with
  | nil => exact h
  | append_singleton es d ih =>
    rw [ofList, List.foldl_append] at h
    rcases mem_of_mem_insertPairs h with rfl | h
    · exact List.mem_append_right es (List.mem_singleton_self _)
    · exact List.mem_append_left _ (ih h)

theorem mem_values_of_get? {m : OrderedMap α} {key : String} {value : α}
    (h : m.get? key = some value) : value ∈ m.values := by
  obtain ⟨front, behind, hentries, -⟩ := List.lookup_eq_some_iff.1 h
  rw [values, hentries]
  simp

theorem mem_values_of_find? {m : OrderedMap α} {test : String → Bool} {value : α}
    (h : m.find? test = some value) : value ∈ m.values := by
  obtain ⟨e, hfind, rfl⟩ := Option.map_eq_some_iff.1 h
  exact List.mem_map_of_mem (List.mem_of_find?_eq_some hfind)

theorem isSome_get?_iff {m : OrderedMap α} {key : String} :
    (m.get? key).isSome = true ↔ key ∈ m.keys := by
  rw [get?, List.lookup_isSome_iff, keys, List.mem_map]
  constructor
  · rintro ⟨e, he, hkey⟩
    exact ⟨e, he, (beq_iff_eq.1 hkey).symm⟩
  · rintro ⟨e, he, hkey⟩
    exact ⟨e, he, beq_iff_eq.2 hkey.symm⟩

end OrderedMap

namespace Schema

/-- The schema that documents declare, one behind the other. -/
def modelOf (docs : List Document) : Model := (docs.foldl Builder.addDocument .empty).model

/-- Each table is stored under its name. -/
def Model.Named (m : Model) : Prop := ∀ e ∈ m.tables.entries, e.1 = e.2.name

/-- A schema has its tables under their names, whatever was declared. -/
theorem named_model (b : Builder) : b.model.Named := by
  intro e he
  obtain ⟨t, -, rfl⟩ := List.mem_map.1 (OrderedMap.mem_of_mem_ofList he)
  rfl

/-- The name of a table leads to a table. -/
theorem Model.Named.hasTable_name {m : Model} (h : m.Named) {t : Table}
    (ht : t ∈ m.tables.values) : m.hasTable t.name = true := by
  obtain ⟨e, he, rfl⟩ := List.mem_map.1 ht
  have hkey : e.2.name ∈ m.tables.keys := by
    rw [← h e he]
    exact List.mem_map_of_mem he
  rw [Model.hasTable, Model.table?, Option.isSome_or, OrderedMap.isSome_get?_iff.2 hkey,
    Bool.true_or]

theorem Model.hasTable_eq_any (m : Model) (name : String) :
    m.hasTable name = m.tableNames.any fun key => Text.sameIgnoringCase key name := by
  have hfind : (m.tables.find? fun key => Text.sameIgnoringCase key name).isSome =
      m.tableNames.any fun key => Text.sameIgnoringCase key name := by
    rw [OrderedMap.find?, Option.isSome_map, List.isSome_find?, Model.tableNames, OrderedMap.keys,
      List.any_map]
    rfl
  rw [Model.hasTable, Model.table?, Option.isSome_or, hfind]
  -- a key that is the name itself is among those that are equal to it but for case
  cases hget : (m.tables.get? name).isSome with
  | false => rfl
  | true =>
    rw [Bool.true_or, eq_comm, List.any_eq_true]
    exact ⟨name, OrderedMap.isSome_get?_iff.1 hget, Text.sameIgnoringCase_iff.2 rfl⟩

/-- A table has a column if one of its columns is equal to it but for case. -/
theorem Table.hasColumn_iff {t : Table} {column : String} :
    t.hasColumn column = true ↔
      ∃ key ∈ t.columnNames, Text.sameIgnoringCase key column = true := by
  simp [Table.hasColumn, Table.column?, OrderedMap.find?, Table.columnNames, OrderedMap.keys]

/-- Whether there is a table does not depend on the case of letters. -/
theorem Model.hasTable_congr (m : Model) {a b : String}
    (h : Text.asciiFold a = Text.asciiFold b) : m.hasTable a = m.hasTable b := by
  simp only [Model.hasTable_eq_any, Text.sameIgnoringCase, h]

theorem mem_values_of_table? {m : Model} {name : String} {t : Table}
    (h : m.table? name = some t) : t ∈ m.tables.values := by
  rcases Option.or_eq_some_iff.1 h with hget | ⟨-, hfind⟩
  · exact OrderedMap.mem_values_of_get? hget
  · exact OrderedMap.mem_values_of_find? hfind

/-- In a schema with its tables under their names, a table is found under its name up to case. -/
theorem Model.Named.asciiFold_name_eq {m : Model} (h : m.Named) {name : String} {t : Table}
    (ht : m.table? name = some t) : Text.asciiFold t.name = Text.asciiFold name := by
  rcases Option.or_eq_some_iff.1 ht with hget | ⟨-, hfind⟩
  · obtain ⟨front, behind, hentries, -⟩ := List.lookup_eq_some_iff.1 hget
    have hname : name = t.name := h (name, t) (by rw [hentries]; simp)
    rw [hname]
  · obtain ⟨e, he, rfl⟩ := Option.map_eq_some_iff.1 hfind
    have hkey : Text.sameIgnoringCase e.1 name = true := by simpa using List.find?_some he
    rw [← h e (List.mem_of_find?_eq_some he)]
    exact Text.sameIgnoringCase_iff.1 hkey

end Schema

end QueryLint
