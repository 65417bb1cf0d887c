import QueryLint.Proofs.Schema.Suggestions
import QueryLint.Proofs.Text.Sigmas

/-!
# Keywords that stand in a text as they are

The search compares keywords and texts in lower case, so one expects it to find at least what stands
in a text letter by letter.  It does, with one exception.  A keyword is put into lower case by
itself, and a capital sigma at its edge then gets the form that it has at the end of a word, or the
other one, whatever the text has in its place (`relevantTables_misses_sigma`).

* `FindsTables`, `FindsColumns`: wherever the keyword stands, the search finds it.
* `finds_iff`: both hold of exactly the keywords whose sigmas are settled.
* `finds_of_sigma_notMem`: keywords without a capital sigma are among them.
-/

namespace QueryLint.Schema

open Text (lowercase lowercaseAfter SettlesSigmas settlesSigmas_iff settlesSigmas_of_notMem)

/-- Every search with the keyword lists every table that has the keyword in one of its texts. -/
def FindsTables (keyword : String) : Prop :=
  ∀ (m : Model) (t : Table) (text : String) (keywords : List String), t ∈ m.tables.values →
    t.HasText text → keyword.toList <:+: text.toList → keyword ∈ keywords →
      t.name ∈ m.relevantTables keywords

/-- Every search with the keyword suggests every column of the table that has the keyword in its
name. -/
def FindsColumns (keyword : String) : Prop :=
  ∀ (m : Model) (t : Table) (table name : String) (keywords : List String),
    m.table? table = some t → name ∈ t.columnNames → keyword.toList <:+: name.toList →
      keyword ∈ keywords → name ∈ m.suggestColumns table keywords

theorem toList_lowercase (s : String) : (lowercase s).toList = lowercaseAfter [] s.toList :=
  String.toList_ofList

/-- A text that has the keyword has it in lower case as well. -/
theorem isInfix_lowercase {keyword text : String} (h : SettlesSigmas keyword.toList)
    (hpart : keyword.toList <:+: text.toList) :
    (lowercase keyword).toList <:+: (lowercase text).toList := by
  rw [toList_lowercase, toList_lowercase]
  exact settlesSigmas_iff.1 h text.toList hpart

/-- If the keyword is found, in lower case, in every string, then it is in every text. -/
theorem settlesSigmas_of_forall {keyword : String}
    (h : ∀ text : String, keyword.toList <:+: text.toList →
      (lowercase keyword).toList <:+: (lowercase text).toList) :
    SettlesSigmas keyword.toList := by
  refine settlesSigmas_iff.2 fun cs hpart => ?_
  have hlower := h (String.ofList cs) (by rwa [String.toList_ofList])
  rwa [toList_lowercase, toList_lowercase, String.toList_ofList] at hlower

/-! ## Schemas with one text -/

/-- A table of which only the name is given. -/
def Table.bare (name : String) : Table := ⟨name, none, .empty, none, .empty⟩

/-- A table with one column of no type. -/
def Table.ofColumn (name column : String) : Table :=
  { Table.bare name with columns := .ofList [(column, .ofType "")] }

/-- A schema with one table. -/
def Model.ofTable (t : Table) : Model := ⟨.ofList [(t.name, t)]⟩

theorem Model.values_ofTable (t : Table) : (Model.ofTable t).tables.values = [t] := rfl

theorem Model.table?_ofTable (t : Table) : (Model.ofTable t).table? t.name = some t := by
  have hget : (Model.ofTable t).tables.get? t.name = some t := List.lookup_cons_self
  rw [Model.table?, hget, Option.some_or]

theorem Table.eq_of_hasText_bare {name text : String} (h : (Table.bare name).HasText text) :
    text = name := by
  cases h with
  | name => rfl
  | column h => exact absurd h List.not_mem_nil
  | description h => exact absurd h (by simp [Table.bare])

/-- Only its name can bring in a column of no type. -/
theorem Column.IsMeantBy.infix_of_ofType {name keyword : String}
    (h : (Column.ofType "").IsMeantBy name keyword) :
    (lowercase keyword).toList <:+: (lowercase name).toList := by
  have hempty : (lowercase (Column.ofType "").dataType).toList = [] := toList_lowercase ""
  rcases h with hpart | ⟨-, htype⟩ | ⟨-, htype⟩
  · exact hpart
  · rw [hempty] at htype
    exact absurd (List.infix_nil.1 htype) (by decide)
  · rw [hempty] at htype
    exact absurd (List.infix_nil.1 htype) (by decide)

/-! ## What is found -/

theorem findsTables_iff {keyword : String} :
    FindsTables keyword ↔ SettlesSigmas keyword.toList := by
  constructor
  · intro h
    refine settlesSigmas_of_forall fun text hpart => ?_
    have hmem := h (.ofTable (.bare text)) (.bare text) text [keyword]
      (List.mem_singleton_self _) .name hpart (List.mem_singleton_self _)
    obtain ⟨t, ht, -, k, hk, text', htext, hlower⟩ := mem_relevantTables_iff.1 hmem
    obtain rfl := List.mem_singleton.1 hk
    rw [Model.values_ofTable, List.mem_singleton] at ht
    subst ht
    rwa [Table.eq_of_hasText_bare htext] at hlower
  · intro h m t text keywords ht htext hpart hk
    exact mem_relevantTables_iff.2 ⟨t, ht, rfl, keyword, hk, text, htext, isInfix_lowercase h hpart⟩

theorem findsColumns_iff {keyword : String} :
    FindsColumns keyword ↔ SettlesSigmas keyword.toList := by
  constructor
  · intro h
    refine settlesSigmas_of_forall fun text hpart => ?_
    let t := Table.ofColumn "" text
    have hmem := h (.ofTable t) t t.name text [keyword] (Model.table?_ofTable t)
      (List.mem_singleton_self _) hpart (List.mem_singleton_self _)
    obtain ⟨c, hc, k, hk, hmeant⟩ := mem_suggestColumns_iff.1 hmem
    obtain ⟨t', htable, hentry⟩ := mem_columns_iff.1 hc
    obtain rfl := Option.some.inj ((Model.table?_ofTable t).symm.trans htable)
    obtain rfl := List.mem_singleton.1 hk
    obtain ⟨-, rfl⟩ := Prod.mk.inj (List.mem_singleton.1 hentry)
    exact hmeant.infix_of_ofType
  · intro h m t table name keywords htable hname hpart hk
    obtain ⟨e, he, rfl⟩ := List.mem_map.1 hname
    exact mem_suggestColumns_iff.2 ⟨e.2, mem_columns_iff.2 ⟨t, htable, he⟩, keyword, hk,
      .inl (isInfix_lowercase h hpart)⟩

/-- A keyword without capital sigmas is found wherever it stands. -/
theorem finds_of_sigma_notMem {keyword : String} (h : 'Σ' ∉ keyword.toList) :
    FindsTables keyword ∧ FindsColumns keyword :=
  ⟨findsTables_iff.2 (settlesSigmas_of_notMem h), findsColumns_iff.2 (settlesSigmas_of_notMem h)⟩

/-- A keyword that stands in a text of a table, or in the name of a column, is found in all tables
and columns if and only if its sigmas are settled. -/
theorem finds_iff (keyword : String) :
    (FindsTables keyword ↔ SettlesSigmas keyword.toList) ∧
      (FindsColumns keyword ↔ SettlesSigmas keyword.toList) :=
  ⟨findsTables_iff, findsColumns_iff⟩

/-- Each sigma ends a keyword, but neither the name of the table nor that of its column. -/
theorem relevantTables_misses_sigma :
    let t := Table.ofColumn "ΑΣΑ" "ΟΔΟΣΑ"
    let m := Model.ofTable t
    (t ∈ m.tables.values ∧ "ΑΣ".toList <:+: t.name.toList ∧
      t.name ∉ m.relevantTables ["ΑΣ"]) ∧
    m.table? "ΑΣΑ" = some t ∧ "ΟΔΟΣΑ" ∈ t.columnNames ∧ "ΟΔΟΣ".toList <:+: "ΟΔΟΣΑ".toList ∧
      "ΟΔΟΣΑ" ∉ m.suggestColumns "ΑΣΑ" ["ΟΔΟΣ"] := by
  decide +kernel

end QueryLint.Schema
