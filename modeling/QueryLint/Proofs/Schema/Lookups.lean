import QueryLint.Proofs.Schema.Reports
import QueryLint.Proofs.Text.Likeness

/-!
# What a name leads to

Tables and columns are looked up without regard to the case of letters, while keys that differ in
nothing else are kept apart.  Among columns the first such key has the answer.  Among tables it has
it only if no key is spelled as the name is, so that every table can be reached, also behind a key
that is equal to its own but for case.  Case is that of the twenty-six letters of ASCII; all other
characters have to be the same (`Text.SameLetters.getElem?_iff`).

* `Text.SameLetters`: names that are equal but for case, letter by letter.
* `OrderedMap.IsFirstUnder`: what the first key has that is equal to a name but for case.
* `OrderedMap.isFirstUnder_find?`: a search without regard to case finds just that.
* `Model.table?_of_mem`, `Model.isFirstUnder_table?`: the two ways in which a table is found.
* `Model.table?_spec`: what is found under each name.
-/

namespace QueryLint

namespace Text

/-! ## Names that are equal but for case -/

/-- The first character is a capital letter of ASCII, and the second one is the same letter in lower
case. -/
def IsCapitalOf (c d : Char) : Prop := 'A' ≤ c ∧ c ≤ 'Z' ∧ d.toNat = c.toNat + 32

/-- The characters are equal, or they are the two cases of a letter of ASCII. -/
def SameLetter (c d : Char) : Prop := c = d ∨ IsCapitalOf c d ∨ IsCapitalOf d c

/-- The names are equal but for the case of letters. -/
def SameLetters (a b : String) : Prop := List.Forall₂ SameLetter a.toList b.toList

variable {a b : String} {c d : Char}

theorem mem_capitals_iff {n : ℕ} : n ∈ capitals ↔ 65 ≤ n ∧ n < 91 := List.mem_range'_1

theorem isCapitalOf_iff : IsCapitalOf c d ↔ c.toNat ∈ capitals ∧ d.toNat = c.toNat + 32 := by
  rw [IsCapitalOf, ← and_assoc, Char.le_def, Char.le_def, UInt32.le_iff_toNat_le,
    UInt32.le_iff_toNat_le, mem_capitals_iff, Nat.lt_succ_iff]
  rfl

theorem toNat_toLower (c : Char) :
    c.toLower.toNat = if c.toNat ∈ capitals then c.toNat + 32 else c.toNat := by
  split
  next h =>
    exact forall_of_toNat_mem (P := fun c => c.toLower.toNat = c.toNat + 32) (by decide) h
  next h => rw [(toLower_eq_or c).resolve_right h]

theorem sameLetter_iff : SameLetter c d ↔ c.toLower = d.toLower := by
  rw [SameLetter, isCapitalOf_iff, isCapitalOf_iff, ← Char.toNat_inj, ← Char.toNat_inj,
    toNat_toLower, toNat_toLower]
  simp only [mem_capitals_iff]
  split_ifs <;> omega

/-- Only letters of ASCII have another case. -/
theorem SameLetter.eq_of_not_ascii (h : SameLetter c d) (hout : 128 ≤ c.toNat ∨ 128 ≤ d.toNat) :
    c = d := by
  rw [SameLetter, isCapitalOf_iff, isCapitalOf_iff, mem_capitals_iff, mem_capitals_iff] at h
  rcases h with h | h | h
  · exact h
  all_goals omega

/-- Names are compared letter by letter. -/
theorem sameLetters_iff : SameLetters a b ↔ sameIgnoringCase a b = true := by
  have hletter : SameLetter = fun c d => c.toLower = d.toLower :=
    funext₂ fun _ _ => propext sameLetter_iff
  rw [SameLetters, hletter, sameIgnoringCase_iff, asciiFold, asciiFold, ← List.forall₂_eq_eq_eq,
    List.forall₂_map_left_iff, List.forall₂_map_right_iff]

theorem sameIgnoringCase_eq_false_iff : sameIgnoringCase a b = false ↔ ¬SameLetters a b := by
  rw [sameLetters_iff, Bool.not_eq_true]

theorem SameLetters.refl (a : String) : SameLetters a a :=
  sameLetters_iff.2 (sameIgnoringCase_iff.2 rfl)

/-- A character outside of ASCII has the same places in both names. -/
theorem SameLetters.getElem?_iff (h : SameLetters a b) (hc : 128 ≤ c.toNat) (i : ℕ) :
    a.toList[i]? = some c ↔ b.toList[i]? = some c := by
  rw [SameLetters] at h
  generalize a.toList = as, b.toList = bs at h
  induction h generalizing i with
  | nil => rfl
  | cons hfirst _ ih =>
    cases i with
    | zero =>
      rw [List.getElem?_cons_zero, List.getElem?_cons_zero, Option.some.injEq, Option.some.injEq]
      constructor
      · rintro rfl
        exact (hfirst.eq_of_not_ascii (Or.inl hc)).symm
      · rintro rfl
        exact hfirst.eq_of_not_ascii (Or.inr hc)
    | succ i => exact ih i

end Text

/-! ## The first key -/

namespace OrderedMap

open Text (SameLetters sameIgnoringCase)

variable {α : Type} {m : OrderedMap α}

/-- What the first key has that is equal to the name but for case, if there is one. -/
inductive IsFirstUnder (m : OrderedMap α) (name : String) : Option α → Prop
  | found {front behind : List (String × α)} {key : String} {value : α}
      (hentries : m.entries = front ++ (key, value) :: behind) (hkey : SameLetters key name)
      (hfront : ∀ e ∈ front, ¬SameLetters e.1 name) : IsFirstUnder m name (some value)
  | missing (hnone : ∀ key ∈ m.keys, ¬SameLetters key name) : IsFirstUnder m name none

/-- A search without regard to case finds what the first key has. -/
theorem isFirstUnder_find? (m : OrderedMap α) (name : String) :
    m.IsFirstUnder name (m.find? fun key => sameIgnoringCase key name) := by
  rw [find?]
  cases hfind : m.entries.find? fun e => sameIgnoringCase e.1 name with
  | some e =>
    obtain ⟨hkey, front, behind, hentries, hfront⟩ := List.find?_eq_some_iff_append.1 hfind
    refine .found hentries (Text.sameLetters_iff.2 hkey) fun d hd => ?_
    rw [← Text.sameIgnoringCase_eq_false_iff, ← Bool.not_eq_true']
    exact hfront d hd
  | none =>
    refine .missing fun key hkey hsame => ?_
    obtain ⟨e, he, rfl⟩ := List.mem_map.1 hkey
    exact List.find?_eq_none.1 hfind e he (Text.sameLetters_iff.1 hsame)

/-- Only one key is the first. -/
theorem IsFirstUnder.eq_find? {name : String} {found : Option α} (h : m.IsFirstUnder name found) :
    found = m.find? fun key => sameIgnoringCase key name := by
  rw [find?]
  cases h with
  | @found front behind key value hentries hkey hfront =>
    have hfind : m.entries.find? (fun e => sameIgnoringCase e.1 name) = some (key, value) := by
      refine List.find?_eq_some_iff_append.2
        ⟨Text.sameLetters_iff.1 hkey, front, behind, hentries, fun e he => ?_⟩
      rw [Bool.not_eq_true', Text.sameIgnoringCase_eq_false_iff]
      exact hfront e he
    rw [hfind, Option.map_some]
  | missing hnone =>
    have hfind : m.entries.find? (fun e => sameIgnoringCase e.1 name) = none := by
      rw [List.find?_eq_none]
      exact fun e he hsame => hnone e.1 (List.mem_map_of_mem he) (Text.sameLetters_iff.2 hsame)
    rw [hfind, Option.map_none]

theorem IsFirstUnder.eq_none_iff {name : String} {found : Option α}
    (h : m.IsFirstUnder name found) : found = none ↔ ∀ key ∈ m.keys, ¬SameLetters key name := by
  cases h with
  | found hentries hkey _ =>
    refine iff_of_false (Option.some_ne_none _) fun hnone => hnone _ ?_ hkey
    rw [keys, hentries]
    simp
  | missing hnone => exact iff_of_true rfl hnone

end OrderedMap

namespace Schema

open Text (SameLetters)

/-! ## Columns -/

namespace Table

/-- The first column of a name has it, whatever its case. -/
theorem isFirstUnder_column? (t : Table) (column : String) :
    t.columns.IsFirstUnder column (t.column? column) := OrderedMap.isFirstUnder_find? _ _

/-- A column is found as it was declared if it is not behind another one of its name. -/
theorem column?_of_first {t : Table} {front behind : List (String × Column)} {e : String × Column}
    (hentries : t.columns.entries = front ++ e :: behind)
    (hfront : ∀ d ∈ front, ¬SameLetters d.1 e.1) : t.column? e.1 = some e.2 :=
  (OrderedMap.IsFirstUnder.found hentries (SameLetters.refl e.1) hfront).eq_find?.symm

end Table

/-! ## Tables -/

namespace Model

/-- A table is found under its key, whatever the keys in front of it. -/
theorem table?_of_mem {m : Model} {e : String × Table} (he : e ∈ m.tables.entries) :
    m.table? e.1 = some e.2 := by
  rw [table?, OrderedMap.get?_of_mem he, Option.some_or]

/-- A name that is no key leads to the first key that is equal to it but for case. -/
theorem isFirstUnder_table? {m : Model} {name : String} (h : name ∉ m.tableNames) :
    m.tables.IsFirstUnder name (m.table? name) := by
  have hget : m.tables.get? name = none := by
    rw [← Option.not_isSome_iff_eq_none, OrderedMap.isSome_get?_iff]
    exact h
  rw [table?, hget, Option.none_or]
  exact OrderedMap.isFirstUnder_find? _ _

theorem table?_eq_none_iff {m : Model} {name : String} :
    m.table? name = none ↔ ∀ key ∈ m.tableNames, ¬SameLetters key name := by
  by_cases hname : name ∈ m.tableNames
  · obtain ⟨e, he, rfl⟩ := List.mem_map.1 hname
    rw [table?_of_mem he]
    exact iff_of_false (Option.some_ne_none _) fun hnone => hnone e.1 hname (SameLetters.refl e.1)
  · exact (isFirstUnder_table? hname).eq_none_iff

/-- Every table is found under its key, and under any other name the table of the first key that is
equal to the name but for case; so whether a table is found depends on the name up to case only.  Of
the columns of a table the first one of the name is found.  What a character outside of ASCII is in
one name, it is in every name that is taken for the same. -/
theorem table?_spec (m : Model) (t : Table) :
    (∀ e ∈ m.tables.entries, m.table? e.1 = some e.2) ∧
    (∀ name ∉ m.tableNames, m.tables.IsFirstUnder name (m.table? name)) ∧
    (∀ name, m.table? name = none ↔ ∀ key ∈ m.tableNames, ¬SameLetters key name) ∧
    (∀ name name', SameLetters name name' → m.hasTable name = m.hasTable name') ∧
    (∀ column, t.columns.IsFirstUnder column (t.column? column)) ∧
    (∀ column, t.column? column = none ↔ ∀ key ∈ t.columnNames, ¬SameLetters key column) ∧
    (∀ front e behind, t.columns.entries = front ++ e :: behind →
      (∀ d ∈ front, ¬SameLetters d.1 e.1) → t.column? e.1 = some e.2) ∧
    ∀ name name' c, SameLetters name name' → 128 ≤ c.toNat →
      ∀ i : ℕ, name.toList[i]? = some c ↔ name'.toList[i]? = some c := by
  refine ⟨fun e => table?_of_mem, fun name => isFirstUnder_table?, fun name => table?_eq_none_iff,
    fun name name' hsame => ?_, t.isFirstUnder_column?, fun column => ?_,
    fun front e behind => Table.column?_of_first, fun name name' c hsame hc i =>
      hsame.getElem?_iff hc i⟩
  · exact m.hasTable_congr (Text.sameIgnoringCase_iff.1 (Text.sameLetters_iff.1 hsame))
  · exact (t.isFirstUnder_column? column).eq_none_iff

/-- A table with two columns of one name. -/
def sizeTable : Table where
  name := "Größe"
  description := none
  columns := .ofList [("id", .ofType "int"), ("ID", .ofType "text")]
  primaryKey := none
  foreignKeys := .empty

/-- A schema with two tables of one name. -/
def sizeModel : Model := ⟨.ofList [("Größe", sizeTable), ("größe", { sizeTable with name := "b" })]⟩

/-- A third spelling of the two tables, and the first of the two columns. -/
theorem table?_sizeModel :
    ("GRößE" ∉ sizeModel.tableNames ∧
      sizeModel.tables.IsFirstUnder "GRößE" (sizeModel.table? "GRößE")) ∧
    (SameLetters "GRößE" "größe" ∧ sizeModel.hasTable "GRößE" = sizeModel.hasTable "größe" ∧
      ∀ i : ℕ, "GRößE".toList[i]? = some 'ö' ↔ "größe".toList[i]? = some 'ö') ∧
    sizeTable.column? "id" = some (.ofType "int") := by
  obtain ⟨-, hother, -, hcase, -, -, hfirst, hout⟩ := table?_spec sizeModel sizeTable
  have hname : "GRößE" ∉ sizeModel.tableNames := by decide
  have hsame : SameLetters "GRößE" "größe" := Text.sameLetters_iff.2 (by decide)
  refine ⟨⟨hname, hother _ hname⟩, ⟨hsame, hcase _ _ hsame, ?_⟩, ?_⟩
  · exact hout _ _ 'ö' hsame (by decide)
  · exact hfirst [] ("id", .ofType "int") [("ID", .ofType "text")] rfl (by simp)

/-- Each of the two tables is found as it is spelled, and under another spelling it is the first
one, but `Ö` is not taken for `ö`.  The second column is not found. -/
example :
    (sizeModel.table? "größe").map Table.name = some "b" ∧
      (sizeModel.table? "GRößE").map Table.name = some "Größe" ∧
      sizeModel.table? "GRÖßE" = none ∧ sizeTable.column? "ID" = some (.ofType "int") := by
  decide +kernel

end Model

end Schema

end QueryLint
