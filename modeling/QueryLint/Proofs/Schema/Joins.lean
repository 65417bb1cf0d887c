import Mathlib.Data.Sym.Sym2
import QueryLint.Proofs.Schema.Tables
import QueryLint.Schema.Join

/-!
# Which join is found

Two tables are joined over the first foreign key of one of them that points at the other.  The
first of the two tables comes first, and the second one is asked only if the first has no such key;
so the order of the two matters only if each has a key to the other.  Then the joins can differ, but
they are between the same two tables (`Join.tables_eq_of_isJoin`).

Tables are found by their keys, and an exact key comes before all others, while what a foreign key
points at is compared up to the case of letters only.  That the two agree is a property of schemas
that were built from documents: there a table is stored under its name.

* `Table.IsFirstKey`: the foreign key that counts.
* `Model.HasKeyTo`: one table has a foreign key to another.
* `Model.IsJoin`: the join of two tables.
* `Join.IsOver`: a join is the one over a given foreign key, and every join that is found is over
  some (`exists_isOver_of_joinPath?`).
* `joinPath?_spec`: which join is found, and when there is one.
-/

namespace QueryLint.Schema

open Text (asciiFold)

/-! ## The join of two tables -/

/-- The foreign key `column` of a table, which points at `r`, is the first in order that points at
this name, ignoring ASCII case. -/
def Table.IsFirstKey (t : Table) (target column : String) (r : Reference) : Prop :=
  ∃ front behind, t.foreignKeys.entries = front ++ (column, r) :: behind ∧
    asciiFold r.table = asciiFold target ∧ ∀ e ∈ front, asciiFold e.2.table ≠ asciiFold target

/-- There is a table of the name `source`, and it has a foreign key that points at `target`. -/
def Model.HasKeyTo (m : Model) (source target : String) : Prop :=
  ∃ t, m.table? source = some t ∧
    ∃ e ∈ t.foreignKeys.entries, asciiFold e.2.table = asciiFold target

/-- The join over the foreign key `column` of a table, which points at `r`. -/
def Table.joinOver (t : Table) (column : String) (r : Reference) : Join :=
  ⟨.inner, t.name, r.table, t.name ++ "." ++ column ++ " = " ++ r.table ++ "." ++ r.column⟩

/-- The join is the one over the foreign key `column` of `t`, which points at `r`. -/
structure Join.IsOver (m : Model) (t : Table) (column : String) (r : Reference) (j : Join) :
    Prop where
  table_mem : t ∈ m.tables.values
  key_mem : (column, r) ∈ t.foreignKeys.entries
  left_eq : j.left = t.name
  right_eq : j.right = r.table
  condition_eq : j.condition = t.name ++ "." ++ column ++ " = " ++ r.table ++ "." ++ r.column

/-- The join of two tables: it is over the first table's key to the second, if there is one, or else
over the second table's key to the first. -/
inductive Model.IsJoin (m : Model) (a b : String) : Join → Prop
  | forth {t : Table} {column : String} {r : Reference} (hmem : t ∈ m.tables.values)
      (htable : m.table? a = some t) (hfirst : t.IsFirstKey b column r) :
      IsJoin m a b (t.joinOver column r)
  | back {t : Table} {column : String} {r : Reference} (hnone : ¬m.HasKeyTo a b)
      (hmem : t ∈ m.tables.values) (htable : m.table? b = some t)
      (hfirst : t.IsFirstKey a column r) : IsJoin m a b (t.joinOver column r)

/-- The names of the two tables of a join, whatever their order and case. -/
def Join.tables (j : Join) : Sym2 (List Char) := s(asciiFold j.left, asciiFold j.right)

variable {m : Model} {a b : String} {j : Join}

/-! ## One direction -/

theorem find?_foreignKeys_eq_some_iff {t : Table} {target column : String} {r : Reference} :
    t.foreignKeys.entries.find? (fun e => e.2.targets target) = some (column, r) ↔
      t.IsFirstKey target column r := by
  simp only [List.find?_eq_some_iff_append, Reference.targets, Text.sameIgnoringCase,
    Bool.not_eq_true', beq_eq_false_iff_ne, beq_iff_eq]
  constructor
  · rintro ⟨htarget, front, behind, hentries, hfront⟩
    exact ⟨front, behind, hentries, htarget, hfront⟩
  · rintro ⟨front, behind, hentries, htarget, hfront⟩
    exact ⟨htarget, front, behind, hentries, hfront⟩

theorem joinOver_eq (t : Table) (column : String) (r : Reference) :
    t.joinOver column r =
      ⟨.inner, t.name, r.table, t.name ++ "." ++ column ++ " = " ++ r.toString⟩ := by
  simp only [Table.joinOver, Reference.toString, String.append_assoc]

/-- What is found in one direction is over the first key. -/
theorem joinFrom?_eq_some_iff : m.joinFrom? a b = some j ↔
    ∃ t column r, m.table? a = some t ∧ t.IsFirstKey b column r ∧ j = t.joinOver column r := by
  simp only [Model.joinFrom?, Option.bind_eq_bind, Option.bind_eq_some_iff, Prod.exists,
    find?_foreignKeys_eq_some_iff, joinOver_eq, Option.pure_def, Option.some.injEq]
  constructor
  · rintro ⟨t, htable, column, r, hfirst, hj⟩
    exact ⟨t, column, r, htable, hfirst, hj.symm⟩
  · rintro ⟨t, column, r, htable, hfirst, hj⟩
    exact ⟨t, htable, column, r, hfirst, hj.symm⟩

theorem isSome_joinFrom?_iff : (m.joinFrom? a b).isSome = true ↔ m.HasKeyTo a b := by
  simp only [Model.joinFrom?, Option.isSome_iff_exists, Option.bind_eq_bind,
    Option.bind_eq_some_iff]
  constructor
  · rintro ⟨j, t, htable, e, hfind, -⟩
    have htarget : e.2.targets b = true := by simpa using List.find?_some hfind
    exact ⟨t, htable, e, List.mem_of_find?_eq_some hfind, Text.sameIgnoringCase_iff.1 htarget⟩
  · rintro ⟨t, htable, e, he, htarget⟩
    have hfind : (t.foreignKeys.entries.find? fun e => e.2.targets b).isSome = true :=
      List.find?_isSome.2 ⟨e, he, Text.sameIgnoringCase_iff.2 htarget⟩
    obtain ⟨found, hfound⟩ := Option.isSome_iff_exists.1 hfind
    exact ⟨_, t, htable, found, hfound, rfl⟩

theorem joinFrom?_eq_none_iff : m.joinFrom? a b = none ↔ ¬m.HasKeyTo a b := by
  rw [← isSome_joinFrom?_iff, Option.not_isSome_iff_eq_none]

/-! ## Both directions -/

theorem joinPath?_eq_some_iff : m.joinPath? a b = some j ↔ m.IsJoin a b j := by
  rw [Model.joinPath?, Option.or_eq_some_iff, joinFrom?_eq_some_iff, joinFrom?_eq_some_iff,
    joinFrom?_eq_none_iff]
  constructor
  · rintro (⟨t, column, r, htable, hfirst, rfl⟩ | ⟨hnone, t, column, r, htable, hfirst, rfl⟩)
    · exact .forth (mem_values_of_table? htable) htable hfirst
    · exact .back hnone (mem_values_of_table? htable) htable hfirst
  · intro h
    cases h with
    | forth _ htable hfirst => exact Or.inl ⟨_, _, _, htable, hfirst, rfl⟩
    | back hnone _ htable hfirst => exact Or.inr ⟨hnone, _, _, _, htable, hfirst, rfl⟩

theorem joinPath?_eq_none_iff :
    m.joinPath? a b = none ↔ ¬m.HasKeyTo a b ∧ ¬m.HasKeyTo b a := by
  rw [Model.joinPath?, Option.or_eq_none_iff, joinFrom?_eq_none_iff, joinFrom?_eq_none_iff]

/-- Whether there is a join does not depend on the order of the tables. -/
theorem isSome_joinPath?_comm (m : Model) (a b : String) :
    (m.joinPath? a b).isSome = (m.joinPath? b a).isSome := by
  rw [Model.joinPath?, Model.joinPath?, Option.isSome_or, Option.isSome_or, Bool.or_comm]

/-- Which join there is depends on the order only if each table has a key to the other. -/
theorem joinPath?_comm (h : ¬(m.HasKeyTo a b ∧ m.HasKeyTo b a)) :
    m.joinPath? a b = m.joinPath? b a := by
  rw [Model.joinPath?, Model.joinPath?]
  rcases not_and_or.1 h with hnone | hnone
  · rw [joinFrom?_eq_none_iff.2 hnone, Option.none_or, Option.or_none]
  · rw [joinFrom?_eq_none_iff.2 hnone, Option.none_or, Option.or_none]

theorem Table.IsFirstKey.isOver_joinOver {t : Table} {target column : String} {r : Reference}
    (hmem : t ∈ m.tables.values) (hfirst : t.IsFirstKey target column r) :
    (t.joinOver column r).IsOver m t column r where
  table_mem := hmem
  key_mem := by
    obtain ⟨front, behind, hentries, -⟩ := hfirst
    rw [hentries]
    exact List.mem_append_right front List.mem_cons_self
  left_eq := rfl
  right_eq := rfl
  condition_eq := rfl

/-- Every join that is found is over a foreign key. -/
theorem exists_isOver_of_joinPath? (h : m.joinPath? a b = some j) :
    ∃ t column r, j.IsOver m t column r := by
  cases joinPath?_eq_some_iff.1 h with
  | forth hmem _ hfirst => exact ⟨_, _, _, hfirst.isOver_joinOver hmem⟩
  | back _ hmem _ hfirst => exact ⟨_, _, _, hfirst.isOver_joinOver hmem⟩

/-! ## The names of the tables -/

/-- A join is between the two tables that are joined. -/
theorem Join.tables_eq_of_isJoin (h : m.Named) (hj : m.IsJoin a b j) :
    j.tables = s(asciiFold a, asciiFold b) := by
  cases hj with
  | forth _ htable hfirst =>
    obtain ⟨-, -, -, htarget, -⟩ := hfirst
    exact congrArg₂ _ (h.asciiFold_name_eq htable) htarget
  | back _ _ htable hfirst =>
    obtain ⟨-, -, -, htarget, -⟩ := hfirst
    rw [Sym2.eq_swap]
    exact congrArg₂ _ (h.asciiFold_name_eq htable) htarget

/-- Two tables of a schema that was built from documents are joined if one of them has a foreign key
to the other, over the first such key. -/
theorem joinPath?_spec (builder : Builder) (a b : String) :
    (∀ j, builder.model.joinPath? a b = some j ↔ builder.model.IsJoin a b j) ∧
    (builder.model.joinPath? a b = none ↔
      ¬builder.model.HasKeyTo a b ∧ ¬builder.model.HasKeyTo b a) ∧
    (builder.model.joinPath? a b).isSome = (builder.model.joinPath? b a).isSome ∧
    (¬(builder.model.HasKeyTo a b ∧ builder.model.HasKeyTo b a) →
      builder.model.joinPath? a b = builder.model.joinPath? b a) ∧
    ∀ j j', builder.model.joinPath? a b = some j → builder.model.joinPath? b a = some j' →
      j.tables = j'.tables := by
  refine ⟨fun j => joinPath?_eq_some_iff, joinPath?_eq_none_iff, isSome_joinPath?_comm _ a b,
    joinPath?_comm, fun j j' hj hj' => ?_⟩
  have hnamed := named_model builder
  rw [Join.tables_eq_of_isJoin hnamed (joinPath?_eq_some_iff.1 hj),
    Join.tables_eq_of_isJoin hnamed (joinPath?_eq_some_iff.1 hj'), Sym2.eq_swap]

/-- Of two tables with keys to each other the first one's key counts. -/
example :
    let m : Model := ⟨.ofList [
      ("a", ⟨"a", none, .empty, none, .ofList [("x", ⟨"c", "z"⟩), ("y", ⟨"B", "z"⟩)]⟩),
      ("b", ⟨"b", none, .empty, none, .ofList [("z", ⟨"a", "y"⟩)]⟩)]⟩
    (m.joinPath? "A" "b").map Join.toString = some "INNER JOIN B ON a.y = B.z" ∧
      (m.joinPath? "b" "A").map Join.toString = some "INNER JOIN a ON b.z = a.y" := by
  decide +kernel

end QueryLint.Schema
