import Mathlib.Tactic.Choose
import QueryLint.Proofs.Json.Fields
import QueryLint.Proofs.Json.Ignoring
import QueryLint.Proofs.Json.Printing
import QueryLint.Proofs.Schema.Declarations

/-!
# Ways to write a schema document

Someone who writes a schema document by hand has much freedom.  Fields stand in any order, what is
absent is left out or null, a column is a type or an object, and keys that mean nothing to the
reader may stand beside the others with values of any kind.  `WritesDocument` says which texts write
the same declarations, and each of them is read as these declarations.

* `TableDeclaration`: a table as it is written, with repetitions.
* `WritesColumn`, `WritesTable`, `WritesDocument`: the texts.
* `Builder.addText_of_writesDocument`: what is read from them.
-/

namespace QueryLint.Schema

open Json (HasField IsFlat IsObjectText IsSpace IsStringText IsValueText Listed MemberText Spells
  SpellsString TakesMembers isSpace_nil printString readAfter readAfter_concat_of_ne
  readAfter_concat_self readAfter_of_notMem spellsString_printString)

/-! ## Declarations -/

/-- A table as it is declared; columns and foreign keys may be declared again. -/
structure TableDeclaration where
  description : Option String
  primaryKey : Option String
  columns : List (String × ColumnDocument)
  /-- The reference of each foreign key, by its column. -/
  foreignKeys : List (String × String)
  deriving DecidableEq, Repr

namespace TableDeclaration

/-- The declaration without repetitions. -/
def document (d : TableDeclaration) : TableDocument :=
  ⟨d.description, d.primaryKey, .ofList d.columns, .ofList d.foreignKeys⟩

/-- The declared table: a column without a type has the empty one, a column that does not say
whether it may be null may be null, and foreign keys whose reference cannot be read are left
out. -/
def table (d : TableDeclaration) (name : String) : Table where
  name := name
  description := d.description
  columns := .ofList (d.columns.map fun c => (c.1, ⟨c.2.dataType.getD "", c.2.nullable.getD true⟩))
  primaryKey := d.primaryKey
  foreignKeys := (OrderedMap.ofList d.foreignKeys).filterMap Reference.ofString?

/-- Building the declaration without repetitions gives the declared table. -/
theorem table_build (d : TableDeclaration) (name : String) :
    (d.document.build name).table = d.table name := by
  have hcolumns : (OrderedMap.ofList d.columns).map ColumnDocument.build =
      .ofList (d.columns.map fun c => (c.1, c.2.build)) :=
    OrderedMap.map_ofList ColumnDocument.build d.columns
  rw [TableDocument.build, document, table]
  simp only [hcolumns, ColumnDocument.build]

end TableDeclaration

/-- The document that declares tables in order, of which some may be declared again. -/
def Document.ofTables (ds : List (String × TableDeclaration)) : Document :=
  .ofDeclarations (ds.map fun e => (e.1, e.2.document))

/-! ## Texts -/

/-- A truth value, or null. -/
def optionalBool : Option Bool → Json
  | some b => .bool b
  | none => .null

/-- A map with the given pairs in order. -/
def WritesMap {α : Type} (W : α → List Char → Prop) (es : List (String × α)) (t : List Char) :
    Prop :=
  Listed .object (MemberText SpellsString W) es t

/-- A column and a text for it: its type alone, or an object. -/
inductive WritesColumn : ColumnDocument → List Char → Prop
  | type {dataType : String} {t : List Char} (h : SpellsString dataType t) :
      WritesColumn ⟨some dataType, none⟩ t
  | object {c : ColumnDocument} {ms : List (String × List Char)} {t : List Char}
      (h : IsObjectText ms t)
      (hdataType : HasField "type" (c.dataType = none) (Spells (Json.optionalString c.dataType)) ms)
      (hnullable : HasField "nullable" (c.nullable = none) (Spells (optionalBool c.nullable)) ms)
      (hunknown : ∀ m ∈ ms, m.1 ≠ "type" → m.1 ≠ "nullable" → ∃ v, IsFlat v ∧ Spells v m.2) :
      WritesColumn c t

/-- A table and a text for it. -/
inductive WritesTable (d : TableDeclaration) (t : List Char) : Prop
  | object {ms : List (String × List Char)} (h : IsObjectText ms t)
      (hdescription : HasField "description" (d.description = none)
        (Spells (Json.optionalString d.description)) ms)
      (hprimaryKey : HasField "primary_key" (d.primaryKey = none)
        (Spells (Json.optionalString d.primaryKey)) ms)
      (hcolumns : HasField "columns" (d.columns = []) (WritesMap WritesColumn d.columns) ms)
      (hforeignKeys : HasField "foreign_keys" (d.foreignKeys = [])
        (WritesMap SpellsString d.foreignKeys) ms)
      (hunknown : ∀ m ∈ ms, m.1 ∉ ["description", "primary_key", "columns", "foreign_keys"] →
        IsValueText m.2)

/-- Tables in order and a text that declares them. -/
inductive WritesDocument (ds : List (String × TableDeclaration)) : List Char → Prop
  | object {ms : List (String × List Char)} {w t w' : List Char} (hw : IsSpace w)
      (h : IsObjectText ms t)
      (htables : HasField "tables" (ds = []) (WritesMap WritesTable ds) ms)
      (hunknown : ∀ m ∈ ms, m.1 ≠ "tables" → IsValueText m.2) (hw' : IsSpace w') :
      WritesDocument ds (w ++ (t ++ w'))

/-! ## Columns -/

theorem isFlat_optionalString (o : Option String) : IsFlat (Json.optionalString o) := by
  cases o with
  | none => exact .null
  | some s => exact .string s

theorem isFlat_optionalBool (o : Option Bool) : IsFlat (optionalBool o) := by
  cases o with
  | none => exact .null
  | some b => exact .bool b

section Members

variable {key : String} {ms : List (String × List Char)} {value : String × List Char → Json}

theorem countMembers_map (key : String) (ms : List (String × List Char))
    (value : String × List Char → Json) :
    countMembers key (ms.map fun m => (m.1, value m)) = (Json.textsUnder key ms).length := by
  rw [countMembers, List.countP_map, List.countP_eq_length_filter, Json.textsUnder,
    List.length_map]
  rfl

theorem member?_map_eq_none (value : String × List Char → Json) (h : key ∉ ms.map Prod.fst) :
    Json.member? key (ms.map fun m => (m.1, value m)) = none := by
  induction ms with
  | nil => rfl
  | cons m ms ih =>
    rw [List.map_cons, List.mem_cons, not_or] at h
    rw [List.map_cons, Json.member?, ih h.2, if_neg (Ne.symm h.1)]
    rfl

theorem member?_map_eq_some {a : Json} (hvalue : ∀ m ∈ ms, m.1 = key → value m = a)
    (h : key ∈ ms.map Prod.fst) :
    Json.member? key (ms.map fun m => (m.1, value m)) = some a := by
  induction ms with
  | nil => exact absurd h List.not_mem_nil
  | cons m ms ih =>
    obtain ⟨hfirst, hlater⟩ := List.forall_mem_cons.1 hvalue
    rw [List.map_cons, Json.member?]
    by_cases hms : key ∈ ms.map Prod.fst
    · rw [ih hlater hms]
      rfl
    · have hm : m.1 = key := by
        rw [List.map_cons, List.mem_cons] at h
        rcases h with hkey | hkey
        · exact hkey.symm
        · exact absurd hkey hms
      rw [member?_map_eq_none value hms, if_pos hm, hfirst hm]
      rfl

theorem stringOrNull?_optionalString (o : Option String) :
    stringOrNull? (some (Json.optionalString o)) = some o := by
  cases o <;> rfl

theorem boolOrNull?_optionalBool (o : Option Bool) :
    boolOrNull? (some (optionalBool o)) = some o := by
  cases o <;> rfl

/-- A type that is left out, or null, is none. -/
theorem stringOrNull?_member? {o : Option String}
    (h : HasField key (o = none) (Spells (Json.optionalString o)) ms)
    (hvalue : ∀ m ∈ ms, m.1 = key → value m = Json.optionalString o) :
    stringOrNull? (Json.member? key (ms.map fun m => (m.1, value m))) = some o := by
  by_cases hkey : key ∈ ms.map Prod.fst
  · rw [member?_map_eq_some hvalue hkey, stringOrNull?_optionalString]
  · rw [member?_map_eq_none value hkey, h.omissible_of_notMem hkey]
    rfl

theorem boolOrNull?_member? {o : Option Bool}
    (h : HasField key (o = none) (Spells (optionalBool o)) ms)
    (hvalue : ∀ m ∈ ms, m.1 = key → value m = optionalBool o) :
    boolOrNull? (Json.member? key (ms.map fun m => (m.1, value m))) = some o := by
  by_cases hkey : key ∈ ms.map Prod.fst
  · rw [member?_map_eq_some hvalue hkey, boolOrNull?_optionalBool]
  · rw [member?_map_eq_none value hkey, h.omissible_of_notMem hkey]
    rfl

end Members

theorem reads_readColumn_of_ofJson? {c : ColumnDocument} {v : Json} {t : List Char}
    (h : (Json.readTree (Json.greatestDepth - levelsAroundColumn)).Reads t v)
    (hc : ColumnDocument.ofJson? v = some c) : readColumn.Reads t c := by
  intro w rest hw hrest
  refine (h w rest hw hrest).bind ?_
  rw [hc]
  exact .pure c rest

/-- A column is read from each of its texts. -/
theorem reads_readColumn {c : ColumnDocument} {t : List Char} (h : WritesColumn c t) :
    readColumn.Reads t c := by
  cases h with
  | @type dataType _ h =>
    exact reads_readColumn_of_ofJson?
      (Json.reads_readTree_flat _ (.string dataType) (.string h)) rfl
  | @object _ ms _ h hdataType hnullable hunknown =>
    -- each member has a value, and the value of a field is the one that the column has
    have hvalue : ∀ m ∈ ms, ∃ v, (IsFlat v ∧ Spells v m.2) ∧
        (m.1 = "type" → v = Json.optionalString c.dataType) ∧
          (m.1 = "nullable" → v = optionalBool c.nullable) := by
      rintro ⟨key, u⟩ hm
      by_cases htype : key = "type"
      · subst htype
        exact ⟨_, ⟨isFlat_optionalString _, hdataType.allowed_of_mem hm⟩, fun _ => rfl,
          fun heq => absurd heq (by simp)⟩
      · by_cases hnull : key = "nullable"
        · subst hnull
          exact ⟨_, ⟨isFlat_optionalBool _, hnullable.allowed_of_mem hm⟩,
            fun heq => absurd heq (by simp), fun _ => rfl⟩
        · obtain ⟨v, hv⟩ := hunknown _ hm htype hnull
          exact ⟨v, hv, fun heq => absurd heq htype, fun heq => absurd heq hnull⟩
    have : Nonempty Json := ⟨.null⟩
    choose! value hflat hdata hnull using hvalue
    refine reads_readColumn_of_ofJson? (Json.reads_readTree_object _ h hflat) ?_
    have hcounts : (countMembers "type" (ms.map fun m => (m.1, value m)) ≤ 1 &&
        countMembers "nullable" (ms.map fun m => (m.1, value m)) ≤ 1) = true := by
      simp [countMembers_map, hdataType.length_textsUnder_le, hnullable.length_textsUnder_le]
    rw [ColumnDocument.ofJson?, if_pos hcounts, stringOrNull?_member? hdataType hdata,
      boolOrNull?_member? hnullable hnull]
    rfl

/-! ## Tables -/

theorem reads_readMap_of_writesMap {α β : Type} {W : α → List Char → Prop}
    {item : Json.Reader β} {value : α → β} {es : List (String × α)} {t : List Char}
    (h : WritesMap W es t) (hitem : ∀ a v, W a v → item.Reads v (value a)) :
    (Json.readMap item).Reads t (.ofList (es.map fun e => (e.1, value e.2))) :=
  Json.reads_readMap h fun e _ v hv => hitem e.2 v hv

theorem reads_readMap_self {α : Type} {W : α → List Char → Prop} {item : Json.Reader α}
    {es : List (String × α)} {t : List Char} (h : WritesMap W es t)
    (hitem : ∀ a v, W a v → item.Reads v a) : (Json.readMap item).Reads t (.ofList es) := by
  have hread : (Json.readMap item).Reads t (.ofList (es.map fun e => (e.1, id e.2))) :=
    reads_readMap_of_writesMap h hitem
  simpa using hread

namespace TableDeclaration

variable {d : TableDeclaration} {t : List Char}

/-- What has been read of the table behind members with the given keys. -/
def draft (d : TableDeclaration) (given : List String) : TableDraft where
  description := readAfter given "description" d.description
  primaryKey := readAfter given "primary_key" d.primaryKey
  columns := readAfter given "columns" (.ofList d.columns)
  foreignKeys := readAfter given "foreign_keys" (.ofList d.foreignKeys)

theorem draft_concat_description (d : TableDeclaration) (given : List String) :
    d.draft (given ++ ["description"]) =
      { d.draft given with description := some d.description } := by
  simp [draft, readAfter_concat_self, readAfter_concat_of_ne]

theorem draft_concat_primaryKey (d : TableDeclaration) (given : List String) :
    d.draft (given ++ ["primary_key"]) =
      { d.draft given with primaryKey := some d.primaryKey } := by
  simp [draft, readAfter_concat_self, readAfter_concat_of_ne]

theorem draft_concat_columns (d : TableDeclaration) (given : List String) :
    d.draft (given ++ ["columns"]) =
      { d.draft given with columns := some (.ofList d.columns) } := by
  simp [draft, readAfter_concat_self, readAfter_concat_of_ne]

theorem draft_concat_foreignKeys (d : TableDeclaration) (given : List String) :
    d.draft (given ++ ["foreign_keys"]) =
      { d.draft given with foreignKeys := some (.ofList d.foreignKeys) } := by
  simp [draft, readAfter_concat_self, readAfter_concat_of_ne]

/-- A member with an unknown key leaves the draft as it is. -/
theorem draft_concat_of_notMem {key : String}
    (h : key ∉ ["description", "primary_key", "columns", "foreign_keys"]) (given : List String) :
    d.draft (given ++ [key]) = d.draft given := by
  simp only [List.mem_cons, List.not_mem_nil, or_false, not_or] at h
  obtain ⟨hdescription, hprimaryKey, hcolumns, hforeignKeys⟩ := h
  simp only [draft, readAfter_concat_of_ne (Ne.symm hdescription),
    readAfter_concat_of_ne (Ne.symm hprimaryKey), readAfter_concat_of_ne (Ne.symm hcolumns),
    readAfter_concat_of_ne (Ne.symm hforeignKeys)]

theorem find?_tableFields {key : String}
    (h : key ∉ ["description", "primary_key", "columns", "foreign_keys"]) :
    tableFields.find? (fun f => f.key == key) = none := by
  simp only [List.mem_cons, List.not_mem_nil, or_false, not_or] at h
  obtain ⟨hdescription, hprimaryKey, hcolumns, hforeignKeys⟩ := h
  simp [tableFields, Ne.symm hdescription, Ne.symm hprimaryKey, Ne.symm hcolumns,
    Ne.symm hforeignKeys]

/-- A table is read from each of its texts. -/
theorem reads_tableRecord (h : WritesTable d t) : tableRecord.read.Reads t d.document := by
  obtain @⟨ms, h, hdescription, hprimaryKey, hcolumns, hforeignKeys, hunknown⟩ := h
  have hms : TakesMembers tableRecord.member (fun u v => v = u) (d.draft []) ms
      (d.draft (ms.map Prod.fst)) := by
    refine Json.takesMembers_of_step ?_
    rintro front ⟨key, u⟩ behind rfl
    -- a known key comes for the first time, and what stands under any other is passed over
    by_cases hkey : key ∈ ["description", "primary_key", "columns", "foreign_keys"]
    · simp only [List.mem_cons, List.not_mem_nil, or_false] at hkey
      rcases hkey with rfl | rfl | rfl | rfl
      · refine hdescription.takesMember (S := d.draft) rfl
          (fun given hnew => by simp [draft, readAfter_of_notMem hnew]) fun given hu => ?_
        rw [draft_concat_description]
        exact (Json.reads_optional_readString hu).bind_pure _
      · refine hprimaryKey.takesMember (S := d.draft) rfl
          (fun given hnew => by simp [draft, readAfter_of_notMem hnew]) fun given hu => ?_
        rw [draft_concat_primaryKey]
        exact (Json.reads_optional_readString hu).bind_pure _
      · refine hcolumns.takesMember (S := d.draft) rfl
          (fun given hnew => by simp [draft, readAfter_of_notMem hnew]) fun given hu => ?_
        rw [draft_concat_columns]
        exact (reads_readMap_self hu fun _ _ => reads_readColumn).bind_pure _
      · refine hforeignKeys.takesMember (S := d.draft) rfl
          (fun given hnew => by simp [draft, readAfter_of_notMem hnew]) fun given hu => ?_
        rw [draft_concat_foreignKeys]
        exact (reads_readMap_self hu fun _ _ => Json.reads_readString).bind_pure _
    · rw [draft_concat_of_notMem hkey]
      refine Json.Record.takesMember_of_find?_eq_none (find?_tableFields hkey) ?_
      rintro _ rfl
      exact Json.reads_ignored (hunknown (key, _) (by simp) hkey)
  refine Json.Record.reads_read h hms ?_
  have hdraft : tableRecord.complete (d.draft (ms.map Prod.fst)) = .ok
      ⟨(readAfter (ms.map Prod.fst) "description" d.description).getD none,
        (readAfter (ms.map Prod.fst) "primary_key" d.primaryKey).getD none,
        (readAfter (ms.map Prod.fst) "columns" (.ofList d.columns)).getD .empty,
        (readAfter (ms.map Prod.fst) "foreign_keys" (.ofList d.foreignKeys)).getD .empty⟩ := rfl
  rw [hdraft, hdescription.getD_readAfter id, hprimaryKey.getD_readAfter id,
    hcolumns.getD_readAfter fun hnil => by rw [hnil]; rfl,
    hforeignKeys.getD_readAfter fun hnil => by rw [hnil]; rfl]
  rfl

end TableDeclaration

/-! ## Documents -/

/-- A document is read from each of its texts. -/
theorem Document.ofText?_of_writesDocument {ds : List (String × TableDeclaration)} {text : String}
    (h : WritesDocument ds text.toList) : Document.ofText? text = .ok (.ofTables ds) := by
  generalize htext : text.toList = s at h
  obtain @⟨ms, w, t, w', hw, h, htables, hunknown, hw'⟩ := h
  let tables : OrderedMap TableDocument := .ofList (ds.map fun e => (e.1, e.2.document))
  have hms : TakesMembers documentRecord.member (fun u v => v = u)
      (readAfter [] "tables" tables) ms (readAfter (ms.map Prod.fst) "tables" tables) := by
    let state (given : List String) := readAfter given "tables" tables
    change TakesMembers _ _ (state []) ms (state (ms.map Prod.fst))
    refine Json.takesMembers_of_step ?_
    rintro front ⟨key, u⟩ behind rfl
    by_cases hkey : key = "tables"
    · subst hkey
      refine htables.takesMember (S := state) rfl
        (fun given hnew => by simp [state, readAfter_of_notMem hnew]) fun given hu => ?_
      simp only [state, readAfter_concat_self]
      exact (reads_readMap_of_writesMap hu fun _ _ =>
        TableDeclaration.reads_tableRecord).bind_pure some
    · simp only [state, readAfter_concat_of_ne (Ne.symm hkey)]
      refine Json.Record.takesMember_of_find?_eq_none ?_ ?_
      · simp [documentRecord, Ne.symm hkey]
      · rintro _ rfl
        exact Json.reads_ignored (hunknown (key, _) (by simp) hkey)
  have hcomplete : documentRecord.complete (readAfter (ms.map Prod.fst) "tables" tables) =
      .ok (.ofTables ds) := by
    have hdraft : documentRecord.complete (readAfter (ms.map Prod.fst) "tables" tables) =
        .ok ⟨(readAfter (ms.map Prod.fst) "tables" tables).getD .empty⟩ := rfl
    rw [hdraft, htables.getD_readAfter fun hnil => by simp only [tables, hnil]; rfl]
    rfl
  rw [Document.ofText?, htext]
  exact Json.finish_of_reads (Json.Record.reads_read h hms hcomplete) hw hw'

/-- The tables that a document adds to those built before. -/
theorem Builder.tables_addDocument_ofTables (b : Builder) (ds : List (String × TableDeclaration)) :
    (b.addDocument (.ofTables ds)).built.map BuiltTable.table =
      b.built.map BuiltTable.table ++
        (OrderedMap.ofList ds).entries.map fun e => e.2.table e.1 := by
  have htables : (Document.ofTables ds).tables =
      (OrderedMap.ofList ds).map TableDeclaration.document :=
    (OrderedMap.map_ofList TableDeclaration.document ds).symm
  have hentries : (Document.ofTables ds).tables.entries =
      (OrderedMap.ofList ds).entries.map fun e => (e.1, e.2.document) := by
    rw [htables]
    rfl
  rw [addDocument, List.map_append, hentries, List.map_map, List.map_map]
  refine congrArg _ (List.map_congr_left fun e _ => ?_)
  exact TableDeclaration.table_build e.2 e.1

/-- Every text that writes the tables is accepted, and the builder is then as if it had been given
the declarations themselves.  The tables are those that are declared, each with its last
declaration at the place of the first. -/
theorem Builder.addText_of_writesDocument (b : Builder) {ds : List (String × TableDeclaration)}
    {text : String} (h : WritesDocument ds text.toList) :
    b.addText text = .ok (b.addDocument (.ofTables ds)) ∧
      (b.addDocument (.ofTables ds)).built.map BuiltTable.table =
        b.built.map BuiltTable.table ++
          (OrderedMap.ofList ds).entries.map fun e => e.2.table e.1 := by
  refine ⟨?_, tables_addDocument_ofTables b ds⟩
  rw [addText, Document.ofText?_of_writesDocument h]
  rfl

/-- A table that is declared twice, once with two columns and once with a foreign key, and one of
which nothing is said. -/
def scatteredTables : List (String × TableDeclaration) :=
  [("ab", ⟨none, none, [("id", ⟨some "int", none⟩), ("n/", ⟨some "t", some false⟩)], []⟩),
    ("c", ⟨none, none, [], []⟩), ("ab", ⟨some "😀", some "ID", [], [("id", "c.x")]⟩)]

/-- The tables in a text with escapes, with fields out of order, and with unknown keys whose values
could not be kept. -/
def scatteredText : String := String.ofList <|
  " \x7b\"x\":[-1e999,\x7b\"\\ud800\":[]\x7d],".toList ++
  "\"tables\":\x7b\"a\\u0062\":\x7b\"columns\":".toList ++
  "\x7b\"id\":\"int\",\"n\\/\":\x7b\"nullable\":false,".toList ++
  "\"more\":true,\"type\":\"t\"\x7d\x7d,\"primary_key\":null\x7d,".toList ++
  "\"c\":\x7b\x7d,\"ab\":\x7b\"foreign_keys\":\x7b\"id\":\"c.x\"\x7d,".toList ++
  "\"y\":\x7b\x7d,\"description\":\"\\ud83d\\ude00\",\"primary_key\":\"ID\"\x7d\x7d\x7d\n".toList

/-- A member with no white space in it. -/
def memberOnLine (m : String × List Char) : List Char := printString m.1 ++ ':' :: m.2

theorem isObjectText_onLine (m : String × List Char) (ms : List (String × List Char)) :
    IsObjectText (m :: ms)
      ('\x7b' :: (memberOnLine m ++ Json.tailText [','] ['\x7d'] (ms.map memberOnLine))) :=
  have hall : ∀ n ∈ m :: ms, MemberText SpellsString (fun u v => v = u) n (memberOnLine n) :=
    fun n _ => .mk (spellsString_printString n.1) isSpace_nil isSpace_nil rfl
  Json.listed_tailText isSpace_nil isSpace_nil isSpace_nil hall

/-- A value that could not be kept: a number out of range, and a key with half a character. -/
theorem isValueText_unkept :
    IsValueText "[-1e999,\x7b\"\\ud800\":[]\x7d]".toList := by
  have hnumber : IsValueText (['-'] ++ (['1'] ++ ([] ++ 'e' :: ([] ++ ['9', '9', '9'])))) :=
    .number (.mk (.inr rfl) ⟨⟨by decide, List.all_eq_true.1 rfl⟩, by decide⟩ (.inl rfl)
      (.inr ⟨'e', [], _, .inl rfl, .inl rfl, ⟨by decide, List.all_eq_true.1 rfl⟩, rfl⟩))
  have hkey : IsStringText ('"' :: ([['\\', 'u', 'd', '8', '0', '0']].flatten ++ ['"'])) :=
    ⟨_, List.forall_mem_singleton.2 (.unit rfl), rfl⟩
  have hempty : IsValueText ['[', ']'] := .array (.nil isSpace_nil) (List.forall_mem_nil _)
  have hmember := MemberText.mk (m := (_, ['[', ']'])) (V := fun u v => v = u)
    (K := fun k u => u = k ∧ IsStringText u) ⟨rfl, hkey⟩ isSpace_nil isSpace_nil rfl
  have hobject := IsValueText.object (.cons isSpace_nil hmember (.close isSpace_nil))
    (List.forall_mem_singleton.2 hempty)
  have hlist := Listed.cons (b := .array) (E := fun u v => v = u) isSpace_nil
    (Eq.refl "-1e999".toList) (.more isSpace_nil isSpace_nil
      (Eq.refl "\x7b\"\\ud800\":[]\x7d".toList) (.close isSpace_nil))
  exact .array hlist (List.forall_mem_cons.2 ⟨hnumber, List.forall_mem_singleton.2 hobject⟩)

theorem writesDocument_scatteredText : WritesDocument scatteredTables scatteredText.toList := by
  have hid : WritesColumn ⟨some "int", none⟩ (printString "int") :=
    .type (spellsString_printString "int")
  have hslash : SpellsString "n/" ('"' :: ([['n'], ['\\', '/']].flatten ++ ['"'])) :=
    ⟨_, .cons (.plain (by decide) (by decide) (by decide)) (.cons (.letter (by decide)) .nil), rfl⟩
  have hn : WritesColumn ⟨some "t", some false⟩ _ :=
    .object (isObjectText_onLine ("nullable", "false".toList)
        [("more", "true".toList), ("type", printString "t")])
      (.given (.string (spellsString_printString "t")) rfl) (.given .false rfl)
      (by simpa using ⟨.bool true, .bool true, .true⟩)
  have hcolumns : WritesMap WritesColumn
      [("id", ⟨some "int", none⟩), ("n/", ⟨some "t", some false⟩)] _ :=
    .cons isSpace_nil (.mk (spellsString_printString "id") isSpace_nil isSpace_nil hid)
      (.more isSpace_nil isSpace_nil (.mk hslash isSpace_nil isSpace_nil hn) (.close isSpace_nil))
  have hfirst : WritesTable
      ⟨none, none, [("id", ⟨some "int", none⟩), ("n/", ⟨some "t", some false⟩)], []⟩ _ :=
    .object (isObjectText_onLine ("columns", _) [("primary_key", "null".toList)])
      (.omitted rfl rfl) (.given .null rfl) (.given hcolumns rfl) (.omitted rfl rfl) (by simp)
  have hbare : WritesTable ⟨none, none, [], []⟩ ['\x7b', '\x7d'] :=
    .object (.nil isSpace_nil) (.omitted rfl rfl) (.omitted rfl rfl) (.omitted rfl rfl)
      (.omitted rfl rfl) (List.forall_mem_nil _)
  have hface : Json.SpellsChar '😀' ['\\', 'u', 'd', '8', '3', 'd', '\\', 'u', 'd', 'e', '0', '0'] :=
    @Json.SpellsChar.pair _ _ _ _ _ _ _ _ _ 0x3d 0x200 rfl rfl (by decide) (by decide) rfl
  have hdescription : SpellsString "😀" _ := ⟨_, .cons hface .nil, rfl⟩
  have hkeys : WritesMap SpellsString [("id", "c.x")] _ :=
    .cons isSpace_nil (.mk (spellsString_printString "id") isSpace_nil isSpace_nil
      (spellsString_printString "c.x")) (.close isSpace_nil)
  have hempty : IsValueText ['\x7b', '\x7d'] := .object (.nil isSpace_nil) (List.forall_mem_nil _)
  have hsecond : WritesTable ⟨some "😀", some "ID", [], [("id", "c.x")]⟩ _ :=
    .object (isObjectText_onLine ("foreign_keys", _) [("y", ['\x7b', '\x7d']), ("description", _),
        ("primary_key", printString "ID")])
      (.given (.string hdescription) rfl) (.given (.string (spellsString_printString "ID")) rfl)
      (.omitted rfl rfl) (.given hkeys rfl) (by simpa using hempty)
  have hab : SpellsString "ab"
      ('"' :: ([['a'], ['\\', 'u', '0', '0', '6', '2']].flatten ++ ['"'])) :=
    ⟨_, .cons (.plain (by decide) (by decide) (by decide)) (.cons (.unit rfl) .nil), rfl⟩
  have htables : WritesMap WritesTable scatteredTables _ :=
    .cons isSpace_nil (.mk hab isSpace_nil isSpace_nil hfirst)
      (.more isSpace_nil isSpace_nil
        (.mk (spellsString_printString "c") isSpace_nil isSpace_nil hbare)
        (.more isSpace_nil isSpace_nil
          (.mk (spellsString_printString "ab") isSpace_nil isSpace_nil hsecond)
          (.close isSpace_nil)))
  have hdocument := WritesDocument.object Json.isSpace_blank
    (isObjectText_onLine ("x", _) [("tables", _)]) (.given htables rfl)
    (by simpa using isValueText_unkept) (show IsSpace ['\n'] from List.forall_mem_singleton.2 rfl)
  have htext : ∃ t, WritesDocument scatteredTables t ∧ scatteredText.toList = t :=
    ⟨_, hdocument, String.toList_ofList.trans (by decide +kernel)⟩
  obtain ⟨t, h, rfl⟩ := htext
  exact h

/-- All that the text declares is taken, each field once. -/
theorem addText_scatteredText :
    WritesDocument scatteredTables scatteredText.toList ∧
      Builder.empty.addText scatteredText =
        .ok (Builder.empty.addDocument (.ofTables scatteredTables)) ∧
      (Builder.empty.addDocument (.ofTables scatteredTables)).built.map BuiltTable.table =
        (OrderedMap.ofList scatteredTables).entries.map fun e => e.2.table e.1 :=
  ⟨writesDocument_scatteredText,
    Builder.addText_of_writesDocument .empty writesDocument_scatteredText⟩

end QueryLint.Schema
