import Mathlib.Data.List.Perm.Basic
import Mathlib.Order.Defs.LinearOrder
import QueryLint.Proofs.Schema.Reports
import QueryLint.Proofs.Text.ByteOrder
import QueryLint.Schema.Summary

/-!
# Schemas in order of their tables' names

A summary has one entry for each table and is sorted by name.  Names need not be distinct, because a
schema that was read from a file may have any tables under its keys, so it has to be said what
becomes of tables with one name: they stay in the order of the schema.  With that the summary is
settled, since a sorted list is known when its parts of one name are (`eq_of_filter_eq`).

In a schema that was built from documents a name has one table at most, the one that was declared
last under it.  So nothing is left of the order in which tables of different names were declared.

* `TableSummary.Condenses`, `Model.IsOverview`: an entry for a table, and the entries for a schema.
* `Model.filter_summary`: the entries of one name.
* `Model.Named.summary_congr`: the order of keys does not matter.
* `Model.summary_spec`: what a summary lists, and what its order is.
-/

namespace QueryLint

/-! ## Sorted lists -/

section Sorted

variable {α β : Type} {rank : α → β} {a : α} {as bs : List α}

theorem mem_of_filter_eq [DecidableEq β]
    (h : ∀ r, as.filter (rank · = r) = bs.filter (rank · = r)) (ha : a ∈ as) : a ∈ bs := by
  have hpart : a ∈ as.filter (rank · = rank a) := List.mem_filter.2 ⟨ha, decide_eq_true rfl⟩
  rw [h] at hpart
  exact (List.mem_filter.1 hpart).1

theorem filter_eq_of_cons [DecidableEq β]
    (h : ∀ r, (a :: as).filter (rank · = r) = (a :: bs).filter (rank · = r)) (r : β) :
    as.filter (rank · = r) = bs.filter (rank · = r) := by
  have hpart := h r
  by_cases hr : rank a = r
  · rw [List.filter_cons_of_pos (by simp [hr]), List.filter_cons_of_pos (by simp [hr])] at hpart
    exact (List.cons.inj hpart).2
  · rwa [List.filter_cons_of_neg (by simp [hr]), List.filter_cons_of_neg (by simp [hr])] at hpart

variable [LinearOrder β]

theorem rank_le_of_mem (h : (a :: as).Pairwise fun b c => rank b ≤ rank c) {b : α}
    (hb : b ∈ a :: as) : rank a ≤ rank b := by
  rcases List.mem_cons.1 hb with rfl | hb
  · exact le_rfl
  · exact List.rel_of_pairwise_cons h hb

/-- A sorted list is known when its parts of one rank are. -/
theorem eq_of_filter_eq (ha : as.Pairwise fun a b => rank a ≤ rank b)
    (hb : bs.Pairwise fun a b => rank a ≤ rank b)
    (h : ∀ r, as.filter (rank · = r) = bs.filter (rank · = r)) : as = bs := by
  induction as generalizing bs with
  | nil =>
    refine (List.eq_nil_iff_forall_not_mem.2 fun b hmem => ?_).symm
    exact List.not_mem_nil (mem_of_filter_eq (fun r => (h r).symm) hmem)
  | cons a as ih =>
    cases bs with
    | nil => exact absurd (mem_of_filter_eq h List.mem_cons_self) List.not_mem_nil
    | cons b bs =>
      -- each of the two heads is in the other list, so neither is of lower rank
      have hrank : rank a = rank b := by
        refine le_antisymm (rank_le_of_mem ha ?_) (rank_le_of_mem hb ?_)
        · exact mem_of_filter_eq (fun r => (h r).symm) List.mem_cons_self
        · exact mem_of_filter_eq h List.mem_cons_self
      have hpart := h (rank a)
      rw [List.filter_cons_of_pos (by simp), List.filter_cons_of_pos (by simp [hrank])] at hpart
      obtain rfl := (List.cons.inj hpart).1
      exact congrArg _ (ih ha.of_cons hb.of_cons (filter_eq_of_cons h))

end Sorted

/-! ## Pairs of one key -/

namespace OrderedMap

variable {α : Type}

/-- A look-up sees the pairs of its key only. -/
theorem lookup_filter (es : List (String × α)) (key : String) :
    (es.filter (·.1 = key)).lookup key = es.lookup key := by
  induction es with
  | nil => rfl
  | cons e es ih =>
    rw [List.lookup_cons]
    by_cases hkey : key = e.1
    · rw [List.filter_cons_of_pos (by simp [hkey]), List.lookup_cons, beq_iff_eq.2 hkey]
    · rw [List.filter_cons_of_neg (by simp [Ne.symm hkey]), ih, beq_false_of_ne hkey]

/-- Under a key of a map there is at most one entry, which is what is found. -/
theorem map_filter_eq_toList_lookup {es : List (String × α)}
    (hnodup : (es.map Prod.fst).Nodup) (key : String) :
    (es.filter (·.1 = key)).map Prod.snd = (es.lookup key).toList := by
  induction es with
  | nil => rfl
  | cons e es ih =>
    obtain ⟨hnew, hnodup⟩ := List.nodup_cons.1 hnodup
    rw [List.lookup_cons]
    by_cases hkey : key = e.1
    · have hnone : es.filter (·.1 = key) = [] := by
        refine List.filter_eq_nil_iff.2 fun d hd hsame => hnew (List.mem_map.2 ⟨d, hd, ?_⟩)
        rw [of_decide_eq_true hsame, hkey]
      rw [List.filter_cons_of_pos (by simp [hkey]), hnone, beq_iff_eq.2 hkey]
      rfl
    · rw [List.filter_cons_of_neg (by simp [Ne.symm hkey]), ih hnodup, beq_false_of_ne hkey]

end OrderedMap

namespace Schema

open Text (bytes)

/-! ## Entries -/

/-- The entry names the table and lists its keys and columns in their order. -/
structure TableSummary.Condenses (s : TableSummary) (t : Table) : Prop where
  name_eq : s.name = t.name
  primaryKey_eq : s.primaryKey = t.primaryKey
  foreignKeys_eq : s.foreignKeys =
    t.foreignKeys.entries.map fun e => e.1 ++ " -> " ++ e.2.table ++ "." ++ e.2.column
  columns_eq : s.columns = t.columns.entries.map Prod.fst

theorem TableSummary.condenses_iff {s : TableSummary} {t : Table} :
    s.Condenses t ↔ s = t.summary := by
  have hkeys : t.summary.foreignKeys =
      t.foreignKeys.entries.map fun e => e.1 ++ " -> " ++ e.2.table ++ "." ++ e.2.column := by
    simp only [Table.summary, Reference.toString, String.append_assoc]
  constructor
  · obtain ⟨name, primaryKey, foreignKeys, columns⟩ := s
    rintro ⟨rfl, rfl, hforeign, rfl⟩
    obtain rfl : foreignKeys = t.summary.foreignKeys := hforeign.trans hkeys.symm
    rfl
  · rintro rfl
    exact ⟨rfl, rfl, hkeys, rfl⟩

theorem forall₂_condenses_iff {ss : List TableSummary} {ts : List Table} :
    List.Forall₂ TableSummary.Condenses ss ts ↔ ss = ts.map Table.summary := by
  have hentry : TableSummary.Condenses = fun s t => s = t.summary :=
    funext₂ fun _ _ => propext TableSummary.condenses_iff
  rw [hentry, ← List.forall₂_eq_eq_eq, List.forall₂_map_right_iff]

/-! ## Summaries -/

/-- There is an entry for each table, in the order of the bytes of the names, and tables of one name
are in the order of the schema. -/
structure Model.IsOverview (m : Model) (ss : List TableSummary) : Prop where
  perm : ∃ ts, List.Forall₂ TableSummary.Condenses ss ts ∧ ts.Perm m.tables.values
  ascending : ss.Pairwise fun s s' => bytes s.name ≤ bytes s'.name
  stable : ∀ name, List.Forall₂ TableSummary.Condenses (ss.filter (·.name = name))
    (m.tables.values.filter (·.name = name))

namespace Model

/-! ### Sorting -/

theorem decide_name_le_trans (s s' s'' : TableSummary) (h : decide (s.name ≤ s'.name) = true)
    (h' : decide (s'.name ≤ s''.name) = true) : decide (s.name ≤ s''.name) = true :=
  decide_eq_true ((of_decide_eq_true h).trans (of_decide_eq_true h'))

theorem decide_name_le_total (s s' : TableSummary) :
    (decide (s.name ≤ s'.name) || decide (s'.name ≤ s.name)) = true := by
  rw [Bool.or_eq_true, decide_eq_true_eq, decide_eq_true_eq]
  exact le_total s.name s'.name

theorem pairwise_summary (m : Model) : m.summary.Pairwise fun s s' => s.name ≤ s'.name :=
  (List.pairwise_mergeSort decide_name_le_trans decide_name_le_total _).imp of_decide_eq_true

theorem perm_summary (m : Model) : m.summary.Perm (m.tables.values.map Table.summary) :=
  List.mergeSort_perm _ _

/-- Entries of one name stay in their order. -/
theorem filter_summary (m : Model) (name : String) :
    m.summary.filter (·.name = name) =
      (m.tables.values.filter (·.name = name)).map Table.summary := by
  have hmap : (m.tables.values.filter (·.name = name)).map Table.summary =
      (m.tables.values.map Table.summary).filter (·.name = name) := by
    rw [List.filter_map]
    rfl
  rw [hmap]
  -- entries of one name are sorted already
  have hsame : ((m.tables.values.map Table.summary).filter (·.name = name)).Pairwise
      fun s s' => decide (s.name ≤ s'.name) = true := by
    refine List.pairwise_of_forall_mem_list fun s hs s' hs' => ?_
    have hname : s.name = s'.name := by
      rw [of_decide_eq_true (List.mem_filter.1 hs).2, of_decide_eq_true (List.mem_filter.1 hs').2]
    exact decide_eq_true hname.le
  have hsublist : ((m.tables.values.map Table.summary).filter (·.name = name)).Sublist m.summary :=
    List.sublist_mergeSort decide_name_le_trans decide_name_le_total hsame List.filter_sublist
  have hpart := hsublist.filter (·.name = name)
  simp only [List.filter_filter, Bool.and_self] at hpart
  exact (hpart.eq_of_length (m.perm_summary.filter _).length_eq.symm).symm

theorem isOverview_summary (m : Model) : m.IsOverview m.summary where
  perm := List.perm_comp_forall₂ m.perm_summary (forall₂_condenses_iff.2 rfl)
  ascending := m.pairwise_summary.imp Text.bytes_le_iff.2
  stable name := forall₂_condenses_iff.2 (m.filter_summary name)

/-- Nothing else is an overview, because the entries of one name are given and the names are
sorted. -/
theorem isOverview_iff {m : Model} {ss : List TableSummary} : m.IsOverview ss ↔ ss = m.summary := by
  constructor
  · intro h
    refine eq_of_filter_eq (h.ascending.imp Text.bytes_le_iff.1) m.pairwise_summary fun name => ?_
    rw [forall₂_condenses_iff.1 (h.stable name), filter_summary]
  · rintro rfl
    exact m.isOverview_summary

/-! ### Tables under their names -/

namespace Named

variable {m m' : Model}

theorem perm_names (h : m.Named) : (m.summary.map TableSummary.name).Perm m.tableNames := by
  have hnames : (m.tables.values.map Table.summary).map TableSummary.name = m.tableNames := by
    rw [tableNames, OrderedMap.keys, OrderedMap.values, List.map_map, List.map_map]
    exact List.map_congr_left fun e he => (h e he).symm
  rw [← hnames]
  exact m.perm_summary.map _

/-- Where no two tables have one name, the names ascend. -/
theorem pairwise_names (h : m.Named) :
    (m.summary.map TableSummary.name).Pairwise fun name name' => bytes name < bytes name' := by
  have hnodup : (m.summary.map TableSummary.name).Nodup :=
    h.perm_names.nodup_iff.2 m.tables.nodup_keys
  have hsorted : (m.summary.map TableSummary.name).Pairwise (· ≤ ·) :=
    List.pairwise_map.2 m.pairwise_summary
  exact (hsorted.and hnodup).imp fun hboth => Text.bytes_lt_iff.2 (lt_of_le_of_ne hboth.1 hboth.2)

/-- The tables of a name are the one that is stored under it, if there is one. -/
theorem filter_values (h : m.Named) (name : String) :
    m.tables.values.filter (·.name = name) = (m.tables.get? name).toList := by
  rw [OrderedMap.values, List.filter_map, OrderedMap.get?,
    ← OrderedMap.map_filter_eq_toList_lookup m.tables.distinct]
  refine congrArg _ (List.filter_congr fun e he => ?_)
  rw [h e he]
  rfl

/-- What is summed up is what is found under each name, wherever it stands. -/
theorem summary_congr (h : m.Named) (h' : m'.Named)
    (hget : ∀ name, m.tables.get? name = m'.tables.get? name) : m.summary = m'.summary := by
  refine eq_of_filter_eq m.pairwise_summary m'.pairwise_summary fun name => ?_
  rw [filter_summary, filter_summary, h.filter_values, h'.filter_values, hget]

end Named

end Model

/-! ## The order of declarations -/

/-- What is stored under a name depends on the declarations of the name. -/
theorem Model.IsDeclaredBy.get?_congr {m m' : Model} {ds ds' : List (String × TableDocument)}
    (h : m.IsDeclaredBy ds) (h' : m'.IsDeclaredBy ds') {name : String}
    (hds : ds.filter (·.1 = name) = ds'.filter (·.1 = name)) :
    m.tables.get? name = m'.tables.get? name := by
  rw [h.get?_eq, h'.get?_eq, ← OrderedMap.lookup_filter ds.reverse,
    ← OrderedMap.lookup_filter ds'.reverse, List.filter_reverse, List.filter_reverse, hds]

/-- The summary is the one list with an entry for each table, in the order of the bytes of the names
and, where names are equal, in that of the schema.  In a schema that was built from documents the
names ascend, and they are the keys of the schema.  If other documents have the same declarations of
each name in the same order, with those of different names in any order, the summary is the same. -/
theorem Model.summary_spec (m : Model) (docs : List Document) :
    (∀ ss, m.IsOverview ss ↔ ss = m.summary) ∧
    ((modelOf docs).summary.map TableSummary.name).Pairwise
      (fun name name' => bytes name < bytes name') ∧
    ((modelOf docs).summary.map TableSummary.name).Perm (modelOf docs).tableNames ∧
    ∀ docs', (∀ name, (declarations docs').filter (·.1 = name) =
        (declarations docs).filter (·.1 = name)) →
      (modelOf docs').summary = (modelOf docs).summary := by
  have hdeclared := Builder.isDeclaredBy_modelOf docs
  refine ⟨fun ss => isOverview_iff, hdeclared.named.pairwise_names, hdeclared.named.perm_names,
    fun docs' hsame => ?_⟩
  have hdeclared' := Builder.isDeclaredBy_modelOf docs'
  exact hdeclared'.named.summary_congr hdeclared.named fun name =>
    hdeclared'.get?_congr hdeclared (hsame name)

/-- A table with nothing but a primary key. -/
def tableWithPrimaryKey (key : String) : TableDocument where
  description := none
  primaryKey := some key
  columns := .empty
  foreignKeys := .empty

/-- Two documents, the second of which declares a table of the first one again. -/
def repeatedUsers : List Document :=
  [⟨.ofList [("users", tableWithPrimaryKey "a"), ("orders", tableWithPrimaryKey "b")]⟩,
    ⟨.ofList [("users", tableWithPrimaryKey "c")]⟩]

/-- The same declarations, with those of different names in another order. -/
def shuffledUsers : List Document :=
  [⟨.ofList [("orders", tableWithPrimaryKey "b"), ("users", tableWithPrimaryKey "a")]⟩,
    ⟨.ofList [("users", tableWithPrimaryKey "c")]⟩]

/-- The keys of the two schemas are in different orders, and the summaries are the same. -/
theorem summary_shuffledUsers :
    (∀ name, (declarations shuffledUsers).filter (·.1 = name) =
      (declarations repeatedUsers).filter (·.1 = name)) ∧
    (modelOf repeatedUsers).tableNames = ["users", "orders"] ∧
    (modelOf shuffledUsers).tableNames = ["orders", "users"] ∧
    (modelOf shuffledUsers).summary = (modelOf repeatedUsers).summary := by
  have hsame : ∀ name, (declarations shuffledUsers).filter (·.1 = name) =
      (declarations repeatedUsers).filter (·.1 = name) := by
    intro name
    by_cases husers : "users" = name
    · subst husers
      decide
    · -- what is left is the one declaration of `orders`
      show [("orders", tableWithPrimaryKey "b"), ("users", tableWithPrimaryKey "a"),
          ("users", tableWithPrimaryKey "c")].filter _ =
        [("users", tableWithPrimaryKey "a"), ("orders", tableWithPrimaryKey "b"),
          ("users", tableWithPrimaryKey "c")].filter _
      simp [List.filter_cons, husers]
  obtain ⟨-, -, -, hshuffled⟩ := Model.summary_spec .empty repeatedUsers
  exact ⟨hsame, by decide, by decide, hshuffled shuffledUsers hsame⟩

/-- Capitals come before small letters, and tables of one name stay in the order of the schema. -/
example :
    let t (name key : String) : Table := ⟨name, none, .empty, some key, .empty⟩
    let m : Model := ⟨.ofList [("a", t "users" "x"), ("b", t "Zoo" "y"), ("c", t "users" "a")]⟩
    (m.summary.map fun s => (s.name, s.primaryKey)) =
      [("Zoo", some "y"), ("users", some "x"), ("users", some "a")] := by
  cbv

end Schema

end QueryLint
