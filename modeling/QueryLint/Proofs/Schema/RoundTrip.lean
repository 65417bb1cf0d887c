import QueryLint.Command.Run
import QueryLint.Command.Transcript
import QueryLint.Proofs.Json.Printing
import QueryLint.Proofs.Json.Reading
import QueryLint.Proofs.Schema.Declarations

/-!
# Schemas that are written and read again

A schema that is written as JSON is read back as it was, with everything in the order of
declaration.  That does not depend on the printer: any text that spells the JSON form of a schema
will do (`reads_modelRecord`), and both printers write such a text.

* `reads_columnRecord`, `reads_referenceRecord`, `reads_builtTableRecord`, `reads_modelRecord`:
  what each part of a schema is read from.
* `Model.ofText?_toJson`: schemas, and tables as they are shown to programs.
-/

namespace QueryLint.Schema

open Json (IsSpace MemberText SpellsString Spells TakesMembers)

variable {α : Type} {t : List Char}

/-- A map is read from any text for it, if its values are. -/
theorem reads_readMap_of_spells {f : α → Json} {item : Json.Reader α} {m : OrderedMap α}
    (h : Spells (mapToJson f m) t) (hitem : ∀ a v, Spells (f a) v → item.Reads v a) :
    (Json.readMap item).Reads t m := by
  have hentries := h.listed_of_object.of_map.map (f := id)
    (F := MemberText SpellsString fun a v => Spells (f a) v) fun e _ u hu => by
      obtain ⟨hk, hw, hw', hv⟩ := hu
      exact .mk hk hw hw' hv
  have hread : (Json.readMap item).Reads t
      (.ofList ((m.entries.map id).map fun e => (e.1, id e.2))) :=
    Json.reads_readMap hentries fun e _ v hv => hitem e.2 v hv
  simpa using hread

theorem reads_columnRecord {c : Column} (h : Spells c.toJson t) : columnRecord.read.Reads t c := by
  have hms : TakesMembers columnRecord.member Spells ⟨none, none⟩
      [("data_type", .string c.dataType), ("nullable", .bool c.nullable)]
      ⟨some c.dataType, some c.nullable⟩ :=
    .cons (Json.Record.takesMember_of_find? rfl rfl fun v hv =>
        (Json.reads_readString hv.spellsString).bind_pure _) <|
      .cons (Json.Record.takesMember_of_find? rfl rfl fun v hv =>
        (Json.reads_readBool hv).bind_pure _) (.nil _)
  exact Json.Record.reads_read h.listed_of_object hms rfl

theorem reads_referenceRecord {r : Reference} (h : Spells r.toJson t) :
    referenceRecord.read.Reads t r := by
  have hms : TakesMembers referenceRecord.member Spells ⟨none, none⟩
      [("table", .string r.table), ("column", .string r.column)]
      ⟨some r.table, some r.column⟩ :=
    .cons (Json.Record.takesMember_of_find? rfl rfl fun v hv =>
        (Json.reads_readString hv.spellsString).bind_pure _) <|
      .cons (Json.Record.takesMember_of_find? rfl rfl fun v hv =>
        (Json.reads_readString hv.spellsString).bind_pure _) (.nil _)
  exact Json.Record.reads_read h.listed_of_object hms rfl

theorem reads_builtTableRecord {table : Table} (h : Spells table.toJson t) :
    builtTableRecord.read.Reads t table := by
  have hms : TakesMembers builtTableRecord.member Spells ⟨none, none, none, none, none⟩
      [("name", .string table.name),
       ("description", Json.optionalString table.description),
       ("columns", mapToJson Column.toJson table.columns),
       ("primary_key", Json.optionalString table.primaryKey),
       ("foreign_keys", mapToJson Reference.toJson table.foreignKeys)]
      ⟨some table.name, some table.description, some table.columns, some table.primaryKey,
        some table.foreignKeys⟩ :=
    .cons (Json.Record.takesMember_of_find? rfl rfl fun v hv =>
        (Json.reads_readString hv.spellsString).bind_pure _) <|
      .cons (Json.Record.takesMember_of_find? rfl rfl fun v hv =>
        (Json.reads_optional_readString hv).bind_pure _) <|
      .cons (Json.Record.takesMember_of_find? rfl rfl fun v hv =>
        (reads_readMap_of_spells hv fun _ _ => reads_columnRecord).bind_pure _) <|
      .cons (Json.Record.takesMember_of_find? rfl rfl fun v hv =>
        (Json.reads_optional_readString hv).bind_pure _) <|
      .cons (Json.Record.takesMember_of_find? rfl rfl fun v hv =>
        (reads_readMap_of_spells hv fun _ _ => reads_referenceRecord).bind_pure _) (.nil _)
  exact Json.Record.reads_read h.listed_of_object hms rfl

theorem reads_modelRecord {m : Model} (h : Spells m.toJson t) : modelRecord.read.Reads t m := by
  have hms : TakesMembers modelRecord.member Spells none
      [("tables", mapToJson Table.toJson m.tables)] (some m.tables) :=
    .cons (Json.Record.takesMember_of_find? rfl rfl fun v hv =>
        (reads_readMap_of_spells hv fun _ _ => reads_builtTableRecord).bind_pure _) (.nil _)
  exact Json.Record.reads_read h.listed_of_object hms rfl

/-! ## Documents -/

theorem Model.ofText?_of_spells {m : Model} {text : String} (h : Spells m.toJson text.toList) :
    Model.ofText? text = .ok m := by
  have hfinish := Json.finish_of_reads (reads_modelRecord h) Json.isSpace_nil Json.isSpace_nil
  rwa [List.nil_append, List.append_nil] at hfinish

/-- What `info` writes for programs is the table, and the end of the line. -/
theorem outputText_runInfo {m : Model} {name : String} {table : Table}
    (h : m.table? name = some table) :
    (Command.runInfo name .json m).outputText = table.toJson.pretty ++ "\n" := by
  rw [Command.runInfo, Command.withTable, h]
  show String.join [table.toJson.pretty ++ "\n"] = _
  simp [String.join]

/-- A schema is read back from its text on one line and from its text on many lines, and so is a
table as `info` shows it to programs. -/
theorem Model.ofText?_toJson (m : Model) :
    Model.ofText? m.toJson.compact = .ok m ∧ Model.ofText? m.toJson.pretty = .ok m ∧
      ∀ (name : String) (table : Table), m.table? name = some table →
        Table.ofText? (Command.runInfo name .json m).outputText = .ok table := by
  refine ⟨Model.ofText?_of_spells ?_, Model.ofText?_of_spells ?_, fun name table h => ?_⟩
  · rw [Json.compact, String.toList_ofList]
    exact Json.spells_compactChars m.toJson
  · rw [Json.pretty, String.toList_ofList]
    exact Json.spells_prettyChars 0 m.toJson
  · have htable := reads_builtTableRecord (Json.spells_prettyChars 0 table.toJson)
    have hend : IsSpace ['\n'] := List.forall_mem_singleton.2 rfl
    rw [outputText_runInfo h, Table.ofText?, Json.pretty, String.toList_append,
      String.toList_ofList]
    exact Json.finish_of_reads htable Json.isSpace_nil hend

/-- A table with a quote, a backslash, control characters and a character above U+FFFF. -/
def awkwardTable : Table where
  name := "na\"me\\"
  description := some "\x00\n\x1f😀"
  columns := .ofList [("", ⟨"\t", false⟩), ("/é", ⟨"int", true⟩)]
  primaryKey := none
  foreignKeys := .ofList [("\x08", ⟨"a", "b.c"⟩)]

/-- The table under a key that is not its name. -/
theorem ofText?_awkwardTable :
    Model.table? ⟨.ofList [("KEY", awkwardTable)]⟩ "key" = some awkwardTable ∧
      Table.ofText? (Command.runInfo "key" .json ⟨.ofList [("KEY", awkwardTable)]⟩).outputText =
        .ok awkwardTable := by
  have htable : Model.table? ⟨.ofList [("KEY", awkwardTable)]⟩ "key" = some awkwardTable := by
    decide
  exact ⟨htable, (Model.ofText?_toJson _).2.2 "key" awkwardTable htable⟩

end QueryLint.Schema
