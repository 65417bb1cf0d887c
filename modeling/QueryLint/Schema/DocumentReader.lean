import QueryLint.Json.Tree
import QueryLint.Schema.Builder

/-!
# Reading schema documents

A schema document is a JSON text.  The document and its tables are records, all of whose fields
may be left out.  A column is a type, or an object with a type and a null mark; it is read into
memory first and then looked at, so its nesting is limited by what the levels around it leave.

* `Document.ofText?`: the document that a text is.
* `Builder.addText`: the tables of a text; a text with a fault adds nothing.
-/

namespace QueryLint.Schema

open Json (Fault RecordField Reader Record)

/-- The levels of objects around a column: the document, its tables, a table, its columns. -/
def levelsAroundColumn : Nat := 4

/-- A text or null, which stands for nothing. -/
def stringOrNull? : Option Json → Option (Option String)
  | none => some none
  | some .null => some none
  | some (.string s) => some (some s)
  | some _ => none

/-- A truth value or null, which stands for nothing. -/
def boolOrNull? : Option Json → Option (Option Bool)
  | none => some none
  | some .null => some none
  | some (.bool b) => some (some b)
  | some _ => none

/-- The number of members under a key. -/
def countMembers (key : String) (ms : List (String × Json)) : Nat :=
  ms.countP fun m => m.1 == key

/-- The column that a value declares: a type, or an object whose `type` and `nullable` are given
at most once. -/
def ColumnDocument.ofJson? : Json → Option ColumnDocument
  | .string s => some ⟨some s, none⟩
  | .object ms =>
    if countMembers "type" ms ≤ 1 && countMembers "nullable" ms ≤ 1 then do
      let dataType ← stringOrNull? (Json.member? "type" ms)
      let nullable ← boolOrNull? (Json.member? "nullable" ms)
      return ⟨dataType, nullable⟩
    else none
  | _ => none

/-- A column. -/
def readColumn : Reader ColumnDocument := do
  let v ← Json.readTree (Json.greatestDepth - levelsAroundColumn)
  match ColumnDocument.ofJson? v with
  | some c => return c
  | none => Reader.fail (.noVariant "ColumnDocument")

/-- The fields of a table that have been read. -/
structure TableDraft where
  description : Option (Option String)
  primaryKey : Option (Option String)
  columns : Option (OrderedMap ColumnDocument)
  foreignKeys : Option (OrderedMap String)
  deriving Repr

/-- The fields of a table. -/
def tableFields : List (RecordField TableDraft) :=
  [⟨"description", fun d => d.description.isSome, fun d => do
      return { d with description := some (← Json.optional Json.readString) }⟩,
   ⟨"primary_key", fun d => d.primaryKey.isSome, fun d => do
      return { d with primaryKey := some (← Json.optional Json.readString) }⟩,
   ⟨"columns", fun d => d.columns.isSome, fun d => do
      return { d with columns := some (← Json.readMap readColumn) }⟩,
   ⟨"foreign_keys", fun d => d.foreignKeys.isSome, fun d => do
      return { d with foreignKeys := some (← Json.readMap Json.readString) }⟩]

/-- A table; what is left out is absent or empty. -/
def tableRecord : Record TableDraft TableDocument where
  name := "TableDocument"
  fields := tableFields
  blank := ⟨none, none, none, none⟩
  mayBeShort := true
  complete d := .ok
    ⟨d.description.getD none, d.primaryKey.getD none, d.columns.getD .empty,
      d.foreignKeys.getD .empty⟩

/-- A document; without tables it declares none. -/
def documentRecord : Record (Option (OrderedMap TableDocument)) Document where
  name := "SchemaDocument"
  fields := [⟨"tables", Option.isSome, fun _ => do
    return some (← Json.readMap tableRecord.read)⟩]
  blank := none
  mayBeShort := true
  complete d := .ok ⟨d.getD .empty⟩

/-- The document that a text is. -/
def Document.ofText? (text : String) : Except Fault Document :=
  Json.finish documentRecord.read text.toList

/-- Adds the tables of a document's text. -/
def Builder.addText (b : Builder) (text : String) : Except Fault Builder :=
  (Document.ofText? text).map b.addDocument

/-- Adds the tables of every text that is a document, and passes over the others. -/
def Builder.addTexts (b : Builder) (texts : List String) : Builder :=
  texts.foldl (fun b text =>
    match b.addText text with
    | .ok b' => b'
    | .error _ => b) b

end QueryLint.Schema
