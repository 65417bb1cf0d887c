import Mathlib.Data.Finset.Sort
import QueryLint.Proofs.Text.ByteOrder
import QueryLint.Schema.Search

/-!
# Which tables are relevant

A keyword is looked for in every text of a table: its name, the names of its columns and its
description, all in lower case.  The names of the tables in which some keyword is found make a set,
and the search lists this set in ascending order; so it does not matter how often a name comes up,
and more keywords only add names.

* `Table.HasText`, `Table.Mentions`: the texts of a table, and what it is to mention a keyword.
* `Model.IsRelevant`: a table of this name mentions a keyword.
* `relevantTables_eq_sort`: a set with the relevant names as its members, in order, is the result.
* `relevantTables_spec`: the search finds the relevant names.
-/

namespace QueryLint.Schema

open Text (lowercase bytes)

/-- The texts of a table in which keywords are looked for. -/
inductive Table.HasText (t : Table) : String → Prop
  | name : HasText t t.name
  | column {name : String} (h : name ∈ t.columns.keys) : HasText t name
  | description {text : String} (h : t.description = some text) : HasText t text

/-- A keyword is a part of one of the texts, both in lower case. -/
def Table.Mentions (t : Table) (keyword : String) : Prop :=
  ∃ text, t.HasText text ∧ (lowercase keyword).toList <:+: (lowercase text).toList

/-- Some table of this name mentions some keyword. -/
def Model.IsRelevant (m : Model) (keywords : List String) (name : String) : Prop :=
  ∃ t ∈ m.tables.values, t.name = name ∧ ∃ k ∈ keywords, t.Mentions k

variable {m : Model} {t : Table} {keywords others : List String} {name : String}

/-! ## One table -/

theorem mentionsAny_iff {text : String} : mentionsAny keywords text = true ↔
    ∃ k ∈ keywords, k.toList <:+: (lowercase text).toList := by
  rw [mentionsAny, List.any_eq_true]
  simp only [Text.occursIn_iff]

theorem Table.mentionsAny_iff_exists_hasText : t.mentionsAny keywords = true ↔
    ∃ text, t.HasText text ∧ Schema.mentionsAny keywords text = true := by
  simp only [Table.mentionsAny, Bool.or_eq_true, List.any_eq_true, Option.any_eq_true]
  constructor
  · rintro ((h | ⟨name, hname, h⟩) | ⟨text, htext, h⟩)
    · exact ⟨t.name, .name, h⟩
    · exact ⟨name, .column hname, h⟩
    · exact ⟨text, .description htext, h⟩
  · rintro ⟨text, htext, h⟩
    cases htext with
    | name => exact Or.inl (Or.inl h)
    | column hname => exact Or.inl (Or.inr ⟨text, hname, h⟩)
    | description htext => exact Or.inr ⟨text, htext, h⟩

theorem Table.mentionsAny_map_lowercase_iff :
    t.mentionsAny (keywords.map lowercase) = true ↔ ∃ k ∈ keywords, t.Mentions k := by
  rw [Table.mentionsAny_iff_exists_hasText]
  constructor
  · rintro ⟨text, htext, h⟩
    obtain ⟨lowered, hlowered, hpart⟩ := mentionsAny_iff.1 h
    obtain ⟨k, hk, rfl⟩ := List.mem_map.1 hlowered
    exact ⟨k, hk, text, htext, hpart⟩
  · rintro ⟨k, hk, text, htext, hpart⟩
    exact ⟨text, htext, mentionsAny_iff.2 ⟨lowercase k, List.mem_map_of_mem hk, hpart⟩⟩

/-- The empty keyword is everywhere. -/
theorem Table.mentions_empty (t : Table) : t.Mentions "" :=
  ⟨t.name, .name, List.nil_infix⟩

/-! ## All tables -/

theorem isRelevant_append : m.IsRelevant (keywords ++ others) name ↔
    m.IsRelevant keywords name ∨ m.IsRelevant others name := by
  simp only [Model.IsRelevant, List.mem_append, or_and_right, exists_or, and_or_left]

/-- Keywords count in lower case only, and neither their order nor their number matters. -/
theorem IsRelevant.of_subset (hsubset : keywords.map lowercase ⊆ others.map lowercase)
    (h : m.IsRelevant keywords name) : m.IsRelevant others name := by
  obtain ⟨t, ht, hname, k, hk, text, htext, hpart⟩ := h
  obtain ⟨k', hk', hlower⟩ := List.mem_map.1 (hsubset (List.mem_map_of_mem hk))
  exact ⟨t, ht, hname, k', hk', text, htext, by rwa [hlower]⟩

/-! ## The list of names -/

theorem mem_insertName_iff {n : String} {names : List String} :
    n ∈ insertName name names ↔ n = name ∨ n ∈ names := by
  fun_induction insertName name names with
  | case1 => rw [List.mem_singleton, or_iff_left List.not_mem_nil]
  | case2 => rw [List.mem_cons]
  | case3 => rw [List.mem_cons, or_self_left]
  | case4 _ _ _ _ ih => rw [List.mem_cons, ih, List.mem_cons, or_left_comm]

/-- A name that is put in its place leaves the list ascending. -/
theorem pairwise_insertName {names : List String} (h : names.Pairwise (· < ·)) :
    (insertName name names).Pairwise (· < ·) := by
  fun_induction insertName name names with
  | case1 => exact List.pairwise_singleton _ _
  | case2 n ns hlt =>
    refine List.pairwise_cons.2 ⟨fun b hb => ?_, h⟩
    rcases List.mem_cons.1 hb with rfl | hb
    · exact hlt
    · exact hlt.trans (List.rel_of_pairwise_cons h hb)
  | case3 => exact h
  | case4 n ns hlt hne ih =>
    refine List.pairwise_cons.2 ⟨fun b hb => ?_, ih h.of_cons⟩
    rcases mem_insertName_iff.1 hb with rfl | hb
    · exact (not_lt.1 hlt).lt_of_ne' hne
    · exact List.rel_of_pairwise_cons h hb

theorem mem_foldr_insertName_iff {names : List String} :
    name ∈ names.foldr insertName [] ↔ name ∈ names := by
  induction names with
  | nil => rfl
  | cons n names ih => rw [List.foldr_cons, mem_insertName_iff, ih, List.mem_cons]

theorem pairwise_foldr_insertName (names : List String) :
    (names.foldr insertName []).Pairwise (· < ·) := by
  induction names with
  | nil => exact List.Pairwise.nil
  | cons n names ih => exact pairwise_insertName ih

theorem pairwise_relevantTables (m : Model) (keywords : List String) :
    (m.relevantTables keywords).Pairwise (· < ·) :=
  pairwise_foldr_insertName _

theorem mem_relevantTables_iff :
    name ∈ m.relevantTables keywords ↔ m.IsRelevant keywords name := by
  simp only [Model.relevantTables, mem_foldr_insertName_iff, List.mem_map, List.mem_filter,
    Table.mentionsAny_map_lowercase_iff, Model.IsRelevant]
  constructor
  · rintro ⟨t, ⟨ht, hmentions⟩, hname⟩
    exact ⟨t, ht, hname, hmentions⟩
  · rintro ⟨t, ht, hname, hmentions⟩
    exact ⟨t, ⟨ht, hmentions⟩, hname⟩

theorem mem_toFinset_relevantTables_iff :
    name ∈ (m.relevantTables keywords).toFinset ↔ m.IsRelevant keywords name :=
  List.mem_toFinset.trans mem_relevantTables_iff

/-- A set with the relevant names as its members is what the search lists. -/
theorem relevantTables_eq_sort {s : Finset String}
    (h : ∀ name, name ∈ s ↔ m.IsRelevant keywords name) :
    m.relevantTables keywords = s.sort (· ≤ ·) := by
  have hs : s = (m.relevantTables keywords).toFinset :=
    Finset.ext fun name => (h name).trans mem_toFinset_relevantTables_iff.symm
  have hsorted := pairwise_relevantTables m keywords
  rw [hs]
  exact ((List.toFinset_sort (· ≤ ·) hsorted.nodup).2 (hsorted.imp le_of_lt)).symm

/-- The search lists the names of the tables that mention a keyword, ascending by their bytes.
Keywords that are equal in lower case find the same, and the names for two lists of keywords are
those for the one and those for the other. -/
theorem relevantTables_spec (m : Model) (keywords : List String) :
    (m.relevantTables keywords).Pairwise (fun name name' => bytes name < bytes name') ∧
    (∀ name, name ∈ m.relevantTables keywords ↔
      ∃ t ∈ m.tables.values, t.name = name ∧ ∃ k ∈ keywords, t.Mentions k) ∧
    (∀ others, (others.map lowercase).toFinset = (keywords.map lowercase).toFinset →
      m.relevantTables others = m.relevantTables keywords) ∧
    (∀ others, m.relevantTables (keywords ++ others) =
      ((m.relevantTables keywords).toFinset ∪ (m.relevantTables others).toFinset).sort (· ≤ ·)) ∧
    ("" ∈ keywords → ∀ t ∈ m.tables.values, t.name ∈ m.relevantTables keywords) ∧
    m.relevantTables [] = [] := by
  refine ⟨?ascending, fun name => mem_relevantTables_iff, fun others h => ?lower,
    fun others => ?append, fun h t ht => ?all, ?none⟩
  case ascending => exact (pairwise_relevantTables m keywords).imp Text.bytes_lt_iff.2
  case lower =>
    have hmem : ∀ k, k ∈ others.map lowercase ↔ k ∈ keywords.map lowercase := by
      intro k
      rw [← List.mem_toFinset, h, List.mem_toFinset]
    have hlisted : ∀ name, name ∈ (m.relevantTables keywords).toFinset ↔
        m.IsRelevant others name := fun name => mem_toFinset_relevantTables_iff.trans
      ⟨IsRelevant.of_subset fun k => (hmem k).2, IsRelevant.of_subset fun k => (hmem k).1⟩
    rw [relevantTables_eq_sort hlisted]
    exact (relevantTables_eq_sort fun name => mem_toFinset_relevantTables_iff).symm
  case append =>
    refine relevantTables_eq_sort fun name => ?_
    rw [Finset.mem_union, mem_toFinset_relevantTables_iff, mem_toFinset_relevantTables_iff,
      isRelevant_append]
  case all => exact mem_relevantTables_iff.2 ⟨t, ht, rfl, "", h, t.mentions_empty⟩
  case none =>
    refine List.eq_nil_iff_forall_not_mem.2 fun name hname => ?_
    obtain ⟨_, -, -, k, hk, -⟩ := mem_relevantTables_iff.1 hname
    exact List.not_mem_nil hk

/-- A keyword may match a part of a column's name or of the description, and capitals are ahead of
small letters. -/
example :
    let m : Model := ⟨.ofList [
      ("a", ⟨"users", none, .ofList [("email", .ofType "text")], none, .empty⟩),
      ("b", ⟨"log", some "One ÉMAIL a day", .empty, none, .empty⟩),
      ("c", ⟨"users", some "mail", .empty, none, .empty⟩),
      ("d", ⟨"Mailbox", none, .empty, none, .empty⟩)]⟩
    m.relevantTables ["émail", "MAILB", "x"] = ["Mailbox", "log"] ∧
      m.relevantTables ["Mail"] = ["Mailbox", "log", "users"] := by
  decide +kernel

end QueryLint.Schema
