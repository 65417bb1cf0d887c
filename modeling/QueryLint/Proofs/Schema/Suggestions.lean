import QueryLint.Proofs.Schema.Relevance

/-!
# Which columns are suggested

A keyword can stand for a column in three ways: by a part of the column's name, and, for three
keywords only, by the declared type.  The search for columns turns two of these ways into flags
for the whole list of keywords.  Read column by column the flags disappear again: a column is
suggested if some keyword stands for it, so a list of keywords suggests what its keywords suggest
one by one.

* `Column.IsMeantBy`: one keyword stands for one column.
* `suits_map_lowercase_iff`: the flags, read column by column.
* `fst_mem_suggestColumns_iff`: a column of the table among the suggestions.  Since no name is
  declared twice, the name of a column tells which column it is.
* `suggestColumns_spec`: the search suggests the columns that are meant, in order.
-/

namespace QueryLint.Schema

open Text (lowercase occursIn_iff)

/-- The keyword stands for the column: by a part of its name, or by its type. -/
def Column.IsMeantBy (name : String) (c : Column) (keyword : String) : Prop :=
  (lowercase keyword).toList <:+: (lowercase name).toList ∨
    ((lowercase keyword = "date" ∨ lowercase keyword = "time") ∧
      "timestamp".toList <:+: (lowercase c.dataType).toList) ∨
    (lowercase keyword = "text" ∧ "varchar".toList <:+: (lowercase c.dataType).toList)

variable {m : Model} {table name : String} {c : Column} {keywords others : List String}

/-! ## One column -/

theorem suits_map_lowercase_iff :
    c.suits (keywords.map lowercase) name = true ↔ ∃ k ∈ keywords, c.IsMeantBy name k := by
  simp only [Column.suits, Bool.or_eq_true, Bool.and_eq_true, mentionsAny_iff, List.any_map,
    List.any_eq_true, Function.comp_apply, beq_iff_eq, occursIn_iff, List.mem_map,
    exists_exists_and_eq_and]
  constructor
  · rintro ((⟨k, hk, hpart⟩ | ⟨⟨k, hk, htemporal⟩, htype⟩) | ⟨⟨k, hk, htext⟩, htype⟩)
    · exact ⟨k, hk, .inl hpart⟩
    · exact ⟨k, hk, .inr (.inl ⟨htemporal, htype⟩)⟩
    · exact ⟨k, hk, .inr (.inr ⟨htext, htype⟩)⟩
  · rintro ⟨k, hk, hpart | ⟨htemporal, htype⟩ | ⟨htext, htype⟩⟩
    · exact .inl (.inl ⟨k, hk, hpart⟩)
    · exact .inl (.inr ⟨⟨k, hk, htemporal⟩, htype⟩)
    · exact .inr ⟨⟨k, hk, htext⟩, htype⟩

/-- Keywords count in lower case only. -/
theorem Column.IsMeantBy.of_lowercase_eq {k k' : String} (h : c.IsMeantBy name k)
    (hlower : lowercase k' = lowercase k) : c.IsMeantBy name k' := by
  unfold IsMeantBy at h ⊢
  rwa [hlower]

theorem exists_isMeantBy_of_subset (hsubset : keywords.map lowercase ⊆ others.map lowercase)
    (h : ∃ k ∈ keywords, c.IsMeantBy name k) : ∃ k ∈ others, c.IsMeantBy name k := by
  obtain ⟨k, hk, hmeant⟩ := h
  obtain ⟨k', hk', hlower⟩ := List.mem_map.1 (hsubset (List.mem_map_of_mem hk))
  exact ⟨k', hk', hmeant.of_lowercase_eq hlower⟩

theorem exists_isMeantBy_append : (∃ k ∈ keywords ++ others, c.IsMeantBy name k) ↔
    (∃ k ∈ keywords, c.IsMeantBy name k) ∨ ∃ k ∈ others, c.IsMeantBy name k := by
  simp only [List.mem_append, or_and_right, exists_or]

/-! ## The columns of a table -/

theorem mem_columns_iff {e : String × Column} :
    e ∈ m.columns table ↔ ∃ t, m.table? table = some t ∧ e ∈ t.columns.entries := by
  rw [Model.columns]
  cases m.table? table <;> simp

theorem map_fst_columns (m : Model) (table : String) :
    (m.columns table).map Prod.fst = ((m.table? table).map Table.columnNames).getD [] := by
  rw [Model.columns]
  cases m.table? table <;> rfl

theorem nodup_map_fst_columns (m : Model) (table : String) :
    ((m.columns table).map Prod.fst).Nodup := by
  rw [Model.columns]
  cases m.table? table with
  | none => exact List.nodup_nil
  | some t => exact t.columns.distinct

theorem mem_suggestColumns_iff : name ∈ m.suggestColumns table keywords ↔
    ∃ c, (name, c) ∈ m.columns table ∧ ∃ k ∈ keywords, c.IsMeantBy name k := by
  simp only [Model.suggestColumns, List.mem_map, List.mem_filter, suits_map_lowercase_iff]
  constructor
  · rintro ⟨⟨_, c⟩, ⟨hmem, hmeant⟩, rfl⟩
    exact ⟨c, hmem, hmeant⟩
  · rintro ⟨c, hmem, hmeant⟩
    exact ⟨(name, c), ⟨hmem, hmeant⟩, rfl⟩

theorem fst_mem_suggestColumns_iff {e : String × Column} (he : e ∈ m.columns table) :
    e.1 ∈ m.suggestColumns table keywords ↔ ∃ k ∈ keywords, e.2.IsMeantBy e.1 k := by
  rw [mem_suggestColumns_iff]
  constructor
  · rintro ⟨c, hmem, hmeant⟩
    have hcolumn : (e.1, c) = e :=
      List.inj_on_of_nodup_map (nodup_map_fst_columns m table) hmem he rfl
    rwa [← hcolumn]
  · intro hmeant
    exact ⟨e.2, he, hmeant⟩

/-! ## Suggestions for other keywords -/

theorem suggestColumns_sublist (m : Model) (table : String) (keywords : List String) :
    (m.suggestColumns table keywords).Sublist ((m.columns table).map Prod.fst) :=
  List.filter_sublist.map Prod.fst

/-- What decides about each column decides about the suggestions. -/
theorem suggestColumns_congr
    (h : ∀ e ∈ m.columns table,
      (∃ k ∈ keywords, e.2.IsMeantBy e.1 k) ↔ ∃ k ∈ others, e.2.IsMeantBy e.1 k) :
    m.suggestColumns table keywords = m.suggestColumns table others := by
  refine congrArg (List.map Prod.fst) (List.filter_congr fun e he => ?_)
  rw [Bool.eq_iff_iff, suits_map_lowercase_iff, suits_map_lowercase_iff]
  exact h e he

/-- What two lists of keywords suggest together, each one suggests, or the other. -/
theorem suggestColumns_append (m : Model) (table : String) (keywords others : List String) :
    m.suggestColumns table (keywords ++ others) =
      ((m.columns table).map Prod.fst).filter fun name =>
        name ∈ m.suggestColumns table keywords ∨ name ∈ m.suggestColumns table others := by
  rw [List.filter_map]
  refine congrArg (List.map Prod.fst) (List.filter_congr fun e he => ?_)
  rw [Bool.eq_iff_iff, suits_map_lowercase_iff, exists_isMeantBy_append,
    ← fst_mem_suggestColumns_iff he, ← fst_mem_suggestColumns_iff he]
  exact decide_eq_true_iff.symm

/-- The search suggests columns of the table that is found, in the order of their declaration and
none of them twice: those for which some keyword stands.  Two lists of keywords suggest together
what one of them suggests, and lists of the same keywords in lower case suggest the same. -/
theorem suggestColumns_spec (m : Model) (table : String) (keywords : List String) :
    let names := ((m.table? table).map Table.columnNames).getD []
    (m.suggestColumns table keywords).Sublist names ∧ (m.suggestColumns table keywords).Nodup ∧
    (∀ name, name ∈ m.suggestColumns table keywords ↔
      ∃ t c, m.table? table = some t ∧ (name, c) ∈ t.columns.entries ∧
        ∃ k ∈ keywords, c.IsMeantBy name k) ∧
    (∀ others, m.suggestColumns table (keywords ++ others) = names.filter fun name =>
      name ∈ m.suggestColumns table keywords ∨ name ∈ m.suggestColumns table others) ∧
    (∀ others, (others.map lowercase).toFinset = (keywords.map lowercase).toFinset →
      m.suggestColumns table others = m.suggestColumns table keywords) := by
  intro names
  have hnames : (m.columns table).map Prod.fst = names := map_fst_columns m table
  refine ⟨?sublist, ?nodup, fun name => ?mem, fun others => ?append, fun others h => ?lower⟩
  case sublist => exact hnames ▸ suggestColumns_sublist m table keywords
  case nodup =>
    exact (suggestColumns_sublist m table keywords).nodup (nodup_map_fst_columns m table)
  case mem =>
    rw [mem_suggestColumns_iff]
    constructor
    · rintro ⟨c, hmem, hmeant⟩
      obtain ⟨t, htable, hentry⟩ := mem_columns_iff.1 hmem
      exact ⟨t, c, htable, hentry, hmeant⟩
    · rintro ⟨t, c, htable, hentry, hmeant⟩
      exact ⟨c, mem_columns_iff.2 ⟨t, htable, hentry⟩, hmeant⟩
  case append => exact hnames ▸ suggestColumns_append m table keywords others
  case lower =>
    have hmem : ∀ k, k ∈ others.map lowercase ↔ k ∈ keywords.map lowercase := by
      intro k
      rw [← List.mem_toFinset, h, List.mem_toFinset]
    exact suggestColumns_congr fun e _ =>
      ⟨exists_isMeantBy_of_subset fun k => (hmem k).1,
        exists_isMeantBy_of_subset fun k => (hmem k).2⟩

/-- Neither `time` nor `text` stands for the type `text`: the first column is meant by its name. -/
example :
    let m : Model := ⟨.ofList [("notes", ⟨"notes", none, .ofList [("entry", .ofType "text"),
      ("placed", .ofType "TIMESTAMP"), ("title", .ofType "varchar(9)")], none, .empty⟩)]⟩
    m.suggestColumns "Notes" ["TIME"] = ["placed"] ∧
      m.suggestColumns "Notes" ["text", "Time", "TRY"] = ["entry", "placed", "title"] ∧
      m.suggestColumns "missing" [""] = [] := by
  decide +kernel

end QueryLint.Schema
