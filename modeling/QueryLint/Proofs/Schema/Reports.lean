import QueryLint.Proofs.InStep
import QueryLint.Proofs.Schema.Building

/-!
# What is reported of a schema

Nothing that is wrong with a schema document keeps it from being accepted, so what is wrong has to
be reported, each thing once and in an order that a reader can follow.  There are two rounds.  While
documents come in, each declaration of a table is looked at by itself: are its keys among its own
columns, as they are spelled?  When all are in, the foreign keys that are left in the schema are
looked at: do they lead anywhere, whatever the case of letters?  A declaration that was replaced has
had its part in the first round and has none in the second.

* `TableReport`: the first round, for one declaration.
* `DanglingReport`: the second round, for one foreign key.
* `Builder.diagnostics_isReport`: the reports on any documents.
-/

namespace QueryLint

namespace OrderedMap

variable {α β : Type}

theorem lookup_of_mem {es : List (String × α)} (hnodup : (es.map Prod.fst).Nodup)
    {e : String × α} (he : e ∈ es) : es.lookup e.1 = some e.2 := by
  obtain ⟨front, behind, rfl⟩ := List.append_of_mem he
  rw [List.map_append, List.map_cons, List.nodup_append] at hnodup
  obtain ⟨-, -, hdisjoint⟩ := hnodup
  have hfront : front.lookup e.1 = none := by
    rw [List.lookup_eq_none_iff]
    intro d hd
    rw [bne_iff_ne]
    intro heq
    exact hdisjoint _ (List.mem_map_of_mem hd) _ List.mem_cons_self heq.symm
  rw [List.lookup_append, hfront, Option.none_or, List.lookup_cons, beq_self_eq_true]

/-- An entry is what is found under its key. -/
theorem get?_of_mem {m : OrderedMap α} {e : String × α} (he : e ∈ m.entries) :
    m.get? e.1 = some e.2 := lookup_of_mem m.distinct he

/-- Under a key is what becomes of its entry. -/
theorem get?_filterMap_of_mem {f : α → Option β} {m : OrderedMap α} {e : String × α}
    (he : e ∈ m.entries) : (m.filterMap f).get? e.1 = f e.2 := by
  cases hb : f e.2 with
  | some b =>
    have hmem : (e.1, b) ∈ (m.filterMap f).entries :=
      List.mem_filterMap.2 ⟨e, he, by rw [hb]; rfl⟩
    exact get?_of_mem hmem
  | none =>
    -- an entry that is kept has the key of an entry that was there before, which is `e`
    rw [get?, List.lookup_eq_none_iff]
    intro d hd
    rw [bne_iff_ne]
    intro hkey
    obtain ⟨e', he', hd⟩ := List.mem_filterMap.1 hd
    obtain ⟨b, hb', rfl⟩ := Option.map_eq_some_iff.1 hd
    have hsame : some e.2 = some e'.2 := by
      rw [← get?_of_mem he, ← get?_of_mem he']
      exact congrArg _ hkey
    rw [Option.some.inj hsame, hb'] at hb
    exact absurd hb (Option.some_ne_none b)

end OrderedMap

namespace Schema

open Text (sameIgnoringCase)

/-- A warning that points at no part of a query. -/
def warning (kind : DiagnosticKind) (message : String) : Diagnostic :=
  ⟨kind, .warning, message, none, none⟩

/-! ## The first round -/

/-- What is reported of a key on a column, given the columns of the table: nothing if the column is
there as it is spelled, and one warning if it is not there, whatever the case of letters. -/
structure KeyReport (columns : List String) (column message : String) (ds : List Diagnostic) :
    Prop where
  atMostOne : ds = [] ∨ ds = [warning .undeclaredKeyColumn message]
  eq_nil_iff : ds = [] ↔ column ∈ columns
  issued : (∀ key ∈ columns, sameIgnoringCase key column = false) →
    ds = [warning .undeclaredKeyColumn message]

/-- What is reported of a foreign key: that its reference cannot be read, and then it is not in the
table, or else what is to be said of its column. -/
inductive ForeignKeyReport (name : String) (d : TableDocument) :
    String × String → List Diagnostic → Prop
  | malformed {column reference : String} (h : Reference.ofString? reference = none)
      (habsent : (d.build name).table.foreignKeys.get? column = none) :
      ForeignKeyReport name d (column, reference)
        [warning .malformedForeignKey
          (Finding.malformedReference name column reference).message]
  | readable {column reference : String} {r : Reference} {ds : List Diagnostic}
      (h : Reference.ofString? reference = some r)
      (hkept : (d.build name).table.foreignKeys.get? column = some r)
      (hds : KeyReport d.columns.keys column
        (Finding.undeclaredForeignKey column name).message ds) :
      ForeignKeyReport name d (column, reference) ds

/-- What is reported of a declaration: first of its primary key, then of its foreign keys in
order. -/
inductive TableReport (name : String) (d : TableDocument) : List Diagnostic → Prop
  | mk {primary foreign : List Diagnostic} (hnone : d.primaryKey = none → primary = [])
      (hsome : ∀ key, d.primaryKey = some key → KeyReport d.columns.keys key
        (Finding.undeclaredPrimaryKey key name).message primary)
      (hforeign : Blocks (ForeignKeyReport name d) d.foreignKeys.entries foreign) :
      TableReport name d (primary ++ foreign)

/-! ## The second round -/

/-- The foreign keys of a schema, in the order of its tables. -/
def Model.references (m : Model) : List (Table × String × Reference) :=
  m.tables.values.flatMap fun t => t.foreignKeys.entries.map fun e => (t, e)

/-- Whether the table is found and has the column. -/
def Model.hasTarget (m : Model) (r : Reference) : Bool :=
  (m.table? r.table).any fun t => t.hasColumn r.column

/-- What is reported of a foreign key whose table is not found, or found without the column. -/
inductive DanglingReport (m : Model) : Table × String × Reference → Diagnostic → Prop
  | table {t : Table} {column : String} {r : Reference} (h : m.table? r.table = none) :
      DanglingReport m (t, column, r) (warning .danglingForeignKey
        (Finding.unknownTable t.name column r.table).message)
  | column {t target : Table} {column : String} {r : Reference}
      (h : m.table? r.table = some target) (hcolumn : target.hasColumn r.column = false) :
      DanglingReport m (t, column, r) (warning .danglingForeignKey
        (Finding.unknownColumn t.name column r).message)

/-! ## Both rounds -/

/-- The declarations of documents, in the order in which they are processed. -/
def declarations (docs : List Document) : List (String × TableDocument) :=
  docs.flatMap fun doc => doc.tables.entries

/-- The reports on documents: of each declaration, and then of each foreign key of the final schema
that leads nowhere. -/
inductive IsReport (docs : List Document) : List Diagnostic → Prop
  | mk {first second : List Diagnostic}
      (hfirst : Blocks (fun e => TableReport e.1 e.2) (declarations docs) first)
      (hsecond : List.Forall₂ (DanglingReport (modelOf docs))
        ((modelOf docs).references.filter fun k => !(modelOf docs).hasTarget k.2.2) second) :
      IsReport docs (first ++ second)

/-! ## Findings are reports -/

theorem Finding.severity_kind (f : Finding) : f.kind.severity = .warning := by
  have hall : ∀ k ∈ [DiagnosticKind.danglingForeignKey, .malformedForeignKey, .undeclaredKeyColumn],
      k.severity = .warning := by decide
  cases f <;> exact hall _ (by simp [Finding.kind])

/-- Every finding is a warning. -/
theorem Finding.diagnostic_eq_warning (f : Finding) : f.diagnostic = warning f.kind f.message := by
  rw [diagnostic, Diagnostic.ofKind, f.severity_kind]
  rfl

theorem contains_map_iff {columns : OrderedMap ColumnDocument} {column : String} :
    (columns.map ColumnDocument.build).contains column = true ↔ column ∈ columns.keys := by
  have hkeys : (columns.map ColumnDocument.build).keys = columns.keys := List.map_map
  rw [OrderedMap.contains, OrderedMap.isSome_get?_iff, hkeys]

/-- A finding about a key column is there unless the column is declared. -/
theorem keyReport_diagnostic {columns : OrderedMap ColumnDocument} {column : String} {f : Finding}
    (hf : f.kind = .undeclaredKeyColumn) :
    KeyReport columns.keys column f.message
      ((if (columns.map ColumnDocument.build).contains column then [] else [f]).map
        Finding.diagnostic) := by
  by_cases hcolumn : column ∈ columns.keys
  · rw [if_pos (contains_map_iff.2 hcolumn)]
    refine ⟨Or.inl rfl, ⟨fun _ => hcolumn, fun _ => rfl⟩, fun h => ?_⟩
    have hself := h column hcolumn
    rw [Text.sameIgnoringCase_iff.2 rfl] at hself
    exact absurd hself (by decide)
  · rw [if_neg (mt contains_map_iff.1 hcolumn), List.map_singleton, f.diagnostic_eq_warning, hf]
    refine ⟨Or.inr rfl, ⟨fun h => ?_, fun h => absurd h hcolumn⟩, fun _ => rfl⟩
    exact absurd h (List.cons_ne_nil _ _)

/-- The findings about a foreign key of a declaration are a report on it. -/
theorem foreignKeyReport_diagnostics {name : String} {d : TableDocument} {e : String × String}
    (he : e ∈ d.foreignKeys.entries) :
    ForeignKeyReport name d e
      ((foreignKeyFindings name (d.columns.map ColumnDocument.build) e.1 e.2).map
        Finding.diagnostic) := by
  obtain ⟨column, reference⟩ := e
  have hget : (d.build name).table.foreignKeys.get? column = Reference.ofString? reference :=
    OrderedMap.get?_filterMap_of_mem he
  cases hread : Reference.ofString? reference with
  | none =>
    rw [hread] at hget
    simp only [foreignKeyFindings, hread, List.map_singleton, Finding.diagnostic_eq_warning]
    exact .malformed hread hget
  | some r =>
    rw [hread] at hget
    simp only [foreignKeyFindings, hread]
    exact .readable hread hget (keyReport_diagnostic rfl)

/-- The findings about a declaration are a report on it. -/
theorem tableReport_diagnostics (name : String) (d : TableDocument) :
    TableReport name d ((d.build name).findings.map Finding.diagnostic) := by
  have hfindings : (d.build name).findings =
      primaryKeyFindings name (d.columns.map ColumnDocument.build) d.primaryKey ++
        d.foreignKeys.entries.flatMap fun e =>
          foreignKeyFindings name (d.columns.map ColumnDocument.build) e.1 e.2 := rfl
  rw [hfindings, List.map_append, List.map_flatMap]
  refine .mk (fun hnone => ?_) (fun key hkey => ?_) ?_
  · rw [hnone]
    rfl
  · rw [hkey]
    exact keyReport_diagnostic rfl
  · exact Blocks.flatMap fun e he => foreignKeyReport_diagnostics he

/-- The findings about the target of a foreign key: none if it has one. -/
theorem targetFindings_of_hasTarget {m : Model} {table column : String} {r : Reference}
    (h : m.hasTarget r = true) : m.targetFindings table column r = [] := by
  rw [Model.hasTarget] at h
  rw [Model.targetFindings]
  cases htable : m.table? r.table with
  | none => rw [htable] at h; exact absurd h Bool.false_ne_true
  | some target =>
    rw [htable] at h
    have hcolumn : target.hasColumn r.column = true := h
    simp only [hcolumn, if_true]

theorem danglingReport_diagnostic {m : Model} {k : Table × String × Reference}
    (h : m.hasTarget k.2.2 = false) :
    ∃ d, (m.targetFindings k.1.name k.2.1 k.2.2).map Finding.diagnostic = [d] ∧
      DanglingReport m k d := by
  obtain ⟨t, column, r⟩ := k
  rw [Model.hasTarget] at h
  rw [Model.targetFindings]
  cases htable : m.table? r.table with
  | none => exact ⟨_, congrArg (fun d => [d]) (Finding.diagnostic_eq_warning _), .table htable⟩
  | some target =>
    rw [htable] at h
    have hcolumn : target.hasColumn r.column = false := h
    simp only [hcolumn, if_neg Bool.false_ne_true]
    exact ⟨_, congrArg (fun d => [d]) (Finding.diagnostic_eq_warning _), .column htable hcolumn⟩

/-- The findings about the targets of foreign keys are reports on those that have none. -/
theorem forall₂_danglingReport (m : Model) (ks : List (Table × String × Reference)) :
    List.Forall₂ (DanglingReport m) (ks.filter fun k => !m.hasTarget k.2.2)
      (ks.flatMap fun k => (m.targetFindings k.1.name k.2.1 k.2.2).map Finding.diagnostic) := by
  induction ks with
  | nil => exact .nil
  | cons k ks ih =>
    rw [List.flatMap_cons]
    cases htarget : m.hasTarget k.2.2 with
    | true =>
      rw [List.filter_cons_of_neg (by simp [htarget]), targetFindings_of_hasTarget htarget]
      exact ih
    | false =>
      obtain ⟨d, hd, hreport⟩ := danglingReport_diagnostic htarget
      rw [List.filter_cons_of_pos (by simp [htarget]), hd]
      exact .cons hreport ih

theorem map_dangling (m : Model) :
    m.dangling.map Finding.diagnostic = m.references.flatMap fun k =>
      (m.targetFindings k.1.name k.2.1 k.2.2).map Finding.diagnostic := by
  rw [Model.dangling, Model.references, List.map_flatMap, List.flatMap_assoc]
  simp only [List.map_flatMap, List.flatMap_map]

/-! ## Any documents -/

namespace Builder

/-- Documents add their declarations in order. -/
theorem built_foldl_addDocument (b : Builder) (docs : List Document) :
    (docs.foldl addDocument b).built =
      b.built ++ (declarations docs).map fun e => e.2.build e.1 := by
  induction docs generalizing b with
  | nil => exact (List.append_nil b.built).symm
  | cons doc docs ih =>
    have hcons : declarations (doc :: docs) = doc.tables.entries ++ declarations docs :=
      List.flatMap_cons
    rw [List.foldl_cons, ih, hcons, List.map_append, ← List.append_assoc]
    rfl

theorem isDeclaredBy_modelOf (docs : List Document) :
    (modelOf docs).IsDeclaredBy (declarations docs) := by
  have htables := isDeclaredBy_ofList (declarations docs)
  have hmodel : modelOf docs =
      ⟨.ofList ((declarations docs).map fun e => (e.1, (e.2.build e.1).table))⟩ := by
    rw [modelOf, model, built_foldl_addDocument, empty, List.nil_append, List.map_map]
    rfl
  rwa [hmodel]

/-- Whatever documents have come in, the complaints are reports on all their declarations, also on
those that were replaced, and then on the foreign keys of the final schema that lead nowhere.  The
final schema has each table as it was declared last. -/
theorem diagnostics_isReport (docs : List Document) :
    IsReport docs (docs.foldl addDocument empty).diagnostics ∧
      (modelOf docs).IsDeclaredBy (declarations docs) ∧
      ∀ d ∈ (docs.foldl addDocument empty).diagnostics, d.severity = .warning ∧ d.span = none := by
  refine ⟨?_, isDeclaredBy_modelOf docs, fun d hd => ?_⟩
  · have hbuilt : (docs.foldl addDocument empty).built =
        (declarations docs).map fun e => e.2.build e.1 := built_foldl_addDocument empty docs
    rw [diagnostics, findings, List.map_append, hbuilt, List.map_flatMap, List.flatMap_map]
    refine .mk (Blocks.flatMap fun e _ => tableReport_diagnostics e.1 e.2) ?_
    rw [← modelOf, map_dangling]
    exact forall₂_danglingReport _ _
  · obtain ⟨f, -, rfl⟩ := List.mem_map.1 hd
    exact ⟨f.severity_kind, rfl⟩

end Builder

end Schema

end QueryLint
