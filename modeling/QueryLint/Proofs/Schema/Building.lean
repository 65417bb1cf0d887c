import QueryLint.Proofs.Schema.Declarations
import QueryLint.Proofs.Schema.Tables

/-!
# Building a schema from texts

Texts are given to a builder one behind the other.  A text that is no document is rejected as a
whole and leaves no trace, so a run may as well be one over the other texts only
(`Builder.addTexts_filter`).  What the other texts declare comes together as if it stood in one
list: each text settles its own repetitions first, and that makes no difference
(`Builder.built_addTexts`, `OrderedMap.ofList_flatMap_entries`).

* `Model.IsDeclaredBy`: what a schema owes to a list of declarations.
* `Builder.addTexts_eq_filter_and_isDeclaredBy`: runs over any texts.
-/

namespace QueryLint.Schema

open Json (Fault)

/-! ## References -/

/-- A reference that can be written and read again. -/
structure Reference.WellFormed (r : Reference) : Prop where
  table_ne : r.table ≠ ""
  dot_notMem : '.' ∉ r.table.toList
  column_ne : r.column ≠ ""

theorem eq_of_splitAtDot {cs front behind : List Char} (h : splitAtDot cs = some (front, behind)) :
    cs = front ++ '.' :: behind ∧ '.' ∉ front := by
  induction cs generalizing front with
  | nil => exact absurd h (by simp [splitAtDot])
  | cons c cs ih =>
    rw [splitAtDot] at h
    by_cases hc : c = '.'
    · rw [if_pos hc] at h
      obtain ⟨rfl, rfl⟩ := Prod.mk.inj (Option.some.inj h)
      exact ⟨by rw [hc, List.nil_append], List.not_mem_nil⟩
    · rw [if_neg hc] at h
      obtain ⟨⟨front', behind'⟩, hsplit, hpair⟩ := Option.map_eq_some_iff.1 h
      obtain ⟨rfl, rfl⟩ := Prod.mk.inj hpair
      obtain ⟨rfl, hfront⟩ := ih hsplit
      exact ⟨rfl, by simp [hfront, Ne.symm hc]⟩

/-- What is read as a reference is well formed. -/
theorem Reference.wellFormed_of_ofString? {s : String} {r : Reference}
    (h : Reference.ofString? s = some r) : r.WellFormed := by
  rw [ofString?] at h
  split at h
  next t ts c cs hsplit =>
    obtain rfl := Option.some.inj h
    refine ⟨?_, ?_, ?_⟩
    · exact fun hempty => absurd (String.ofList_eq_empty_iff.1 hempty) (List.cons_ne_nil t ts)
    · rw [String.toList_ofList]
      exact (eq_of_splitAtDot hsplit).2
    · exact fun hempty => absurd (String.ofList_eq_empty_iff.1 hempty) (List.cons_ne_nil c cs)
  next => exact absurd h (by simp)

/-- A table keeps no foreign key that cannot be read. -/
theorem TableDocument.wellFormed_build {d : TableDocument} {name : String}
    {k : String × Reference} (h : k ∈ (d.build name).table.foreignKeys.entries) :
    k.2.WellFormed := by
  obtain ⟨e, -, he⟩ := List.mem_filterMap.1 h
  obtain ⟨r, hr, rfl⟩ := Option.map_eq_some_iff.1 he
  exact Reference.wellFormed_of_ofString? hr

/-! ## Texts -/

/-- Whether a text is a document. -/
def isDocument (text : String) : Bool := (Document.ofText? text).isOk

/-- What a text declares, in order and with repetitions.  A text that is no document declares
nothing. -/
def declarationsIn (text : String) : List (String × TableDocument) :=
  match Document.declarations? text with
  | .ok ds => ds
  | .error _ => []

/-- What the schema owes to the declarations: its tables are in the order in which they were
declared first, each is built from its last declaration, and no other foreign keys are in it than
those that can be read. -/
structure Model.IsDeclaredBy (m : Model) (ds : List (String × TableDocument)) : Prop where
  nodup : m.tableNames.Nodup
  names_eq : m.tableNames = (ds.map Prod.fst).eraseDups
  get?_eq : ∀ name, m.tables.get? name =
    (ds.reverse.lookup name).map fun d => (d.build name).table
  named : m.Named
  wellFormed : ∀ e ∈ m.tables.entries, ∀ k ∈ e.2.foreignKeys.entries, k.2.WellFormed

/-- Declarations that make the same map declare the same schema. -/
theorem Model.IsDeclaredBy.congr {m : Model} {ds ds' : List (String × TableDocument)}
    (h : m.IsDeclaredBy ds) (hds : OrderedMap.ofList ds = .ofList ds') : m.IsDeclaredBy ds' where
  nodup := h.nodup
  names_eq := by
    rw [h.names_eq, ← OrderedMap.keys_ofList, hds, OrderedMap.keys_ofList]
  get?_eq name := by
    rw [h.get?_eq, ← OrderedMap.get?_ofList, hds, OrderedMap.get?_ofList]
  named := h.named
  wellFormed := h.wellFormed

/-- The tables that are built from declarations, one behind the other, are a schema that is declared
by them. -/
theorem isDeclaredBy_ofList (ds : List (String × TableDocument)) :
    Model.IsDeclaredBy ⟨.ofList (ds.map fun e => (e.1, (e.2.build e.1).table))⟩ ds where
  nodup := OrderedMap.nodup_keys _
  names_eq := by
    rw [Model.tableNames, OrderedMap.keys_ofList, List.map_map]
    rfl
  get?_eq name := by
    rw [OrderedMap.get?_ofList, ← List.map_reverse,
      OrderedMap.lookup_map_value fun name (d : TableDocument) => (d.build name).table]
  named e he := by
    obtain ⟨d, -, rfl⟩ := List.mem_map.1 (OrderedMap.mem_of_mem_ofList he)
    rfl
  wellFormed e he k hk := by
    obtain ⟨d, -, rfl⟩ := List.mem_map.1 (OrderedMap.mem_of_mem_ofList he)
    exact TableDocument.wellFormed_build hk

namespace Builder

theorem addTexts_append (b : Builder) (front back : List String) :
    b.addTexts (front ++ back) = (b.addTexts front).addTexts back := List.foldl_append

theorem addText_eq (b : Builder) (text : String) :
    b.addText text =
      (Document.declarations? text).map fun ds => b.addDocument (Document.ofDeclarations ds) := by
  rw [addText, Document.ofText?_eq]
  cases Document.declarations? text <;> rfl

/-- A text that is rejected leaves no trace. -/
theorem addTexts_of_error {b : Builder} {text : String} {e : Fault}
    (h : b.addText text = .error e) : b.addTexts [text] = b := by
  rw [addTexts, List.foldl_cons, List.foldl_nil, h]

/-- Whether a text is accepted does not depend on what came before. -/
theorem isOk_addText (b : Builder) (text : String) : (b.addText text).isOk = isDocument text := by
  rw [addText, isDocument]
  cases Document.ofText? text <;> rfl

/-- A run is one over the documents among the texts. -/
theorem addTexts_filter (b : Builder) (texts : List String) :
    b.addTexts (texts.filter isDocument) = b.addTexts texts := by
  induction texts generalizing b with
  | nil => rfl
  | cons text texts ih =>
    cases hadd : b.addText text with
    | ok b' =>
      have htext : isDocument text = true := by
        rw [← isOk_addText b, hadd]
        rfl
      rw [List.filter_cons_of_pos htext, ← List.singleton_append, addTexts_append, ih,
        ← addTexts_append, List.singleton_append]
    | error e =>
      have htext : ¬ isDocument text = true := by
        rw [← isOk_addText b, hadd]
        exact Bool.false_ne_true
      rw [List.filter_cons_of_neg htext, ih, ← List.singleton_append, addTexts_append,
        addTexts_of_error hadd]

theorem built_addTexts_singleton (b : Builder) (text : String) :
    (b.addTexts [text]).built =
      b.built ++ (OrderedMap.ofList (declarationsIn text)).entries.map fun e => e.2.build e.1 := by
  rw [addTexts, List.foldl_cons, List.foldl_nil, addText_eq, declarationsIn]
  cases Document.declarations? text with
  | ok ds => rfl
  | error e => exact (List.append_nil b.built).symm

/-- A run adds the tables of each text, in the order of the texts. -/
theorem built_addTexts (b : Builder) (texts : List String) :
    (b.addTexts texts).built =
      b.built ++ (texts.flatMap fun text => (OrderedMap.ofList (declarationsIn text)).entries).map
        fun e => e.2.build e.1 := by
  induction texts generalizing b with
  | nil => exact (List.append_nil b.built).symm
  | cons text texts ih =>
    rw [← List.singleton_append, addTexts_append, ih, built_addTexts_singleton,
      List.flatMap_append, List.flatMap_singleton, List.map_append, List.append_assoc]

/-- The tables of a run as a map over the declarations, each text without its repetitions. -/
theorem tables_addTexts_empty (texts : List String) :
    (empty.addTexts texts).model.tables =
      .ofList ((texts.flatMap fun text =>
        (OrderedMap.ofList (declarationsIn text)).entries).map
          fun e => (e.1, (e.2.build e.1).table)) := by
  rw [model, built_addTexts, empty, List.nil_append, List.map_map]
  rfl

/-- The schema of a run is declared by the texts one behind the other. -/
theorem isDeclaredBy_addTexts_empty (texts : List String) :
    (empty.addTexts texts).model.IsDeclaredBy (texts.flatMap declarationsIn) := by
  have htables := isDeclaredBy_ofList
    (texts.flatMap fun text => (OrderedMap.ofList (declarationsIn text)).entries)
  rw [← tables_addTexts_empty] at htables
  exact htables.congr (OrderedMap.ofList_flatMap_entries declarationsIn texts)

/-- A text that is rejected leaves the builder as it is at any time, so nothing of a run depends
on the rejected texts.  The schema is declared by the other texts one behind the other: the last
declaration of a table counts, at the place of the first. -/
theorem addTexts_eq_filter_and_isDeclaredBy (texts : List String) :
    (∀ (before : List String) (text : String) (e : Fault),
        (empty.addTexts before).addText text = .error e →
          empty.addTexts (before ++ [text]) = empty.addTexts before) ∧
      empty.addTexts texts = empty.addTexts (texts.filter isDocument) ∧
      (empty.addTexts texts).model.IsDeclaredBy (texts.flatMap declarationsIn) := by
  refine ⟨fun before text e h => ?_, ?_, isDeclaredBy_addTexts_empty texts⟩
  · rw [addTexts_append, addTexts_of_error h]
  · rw [addTexts_filter]

/-- A table that is declared twice in one text, and a text that ends too early. -/
example :
    (empty.addTexts ["\x7b\"tables\": \x7b\"a\": [], \"b\": [], \"a\": [null, \"id\"]\x7d\x7d",
      "\x7b\"tables\": \x7b\"c\": []"]).model.tables.entries.map
        (fun e => (e.1, e.2.primaryKey)) = [("a", some "id"), ("b", none)] := by
  cbv

end Builder

end QueryLint.Schema
