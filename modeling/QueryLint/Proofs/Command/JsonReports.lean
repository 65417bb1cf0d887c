import QueryLint.Proofs.Command.Headlines
import QueryLint.Proofs.Json.Trees

/-!
# Reports that are objects

A report for programs holds pieces of the query that it is about, whatever they are, and still is
one document that can be read.  What is read from it is what was reported: the name of the query,
each complaint, and the verdict on all of them.

* `KeysSorted`: objects whose keys are in order, all the way down.
* `FitsMachine`: complaints about places that a machine can count to.
* `exists_parse_report`: the report on any list of complaints.
-/

namespace QueryLint

/-! ## Values in order -/

namespace Json

/-- The keys of every object in the value are in order, none of them twice. -/
inductive KeysSorted : Json → Prop
  | null : KeysSorted .null
  | bool (b : Bool) : KeysSorted (.bool b)
  | number (n : Number) : KeysSorted (.number n)
  | string (s : String) : KeysSorted (.string s)
  | array {vs : List Json} (h : ∀ v ∈ vs, KeysSorted v) : KeysSorted (.array vs)
  | object {ms : List (String × Json)} (hkeys : (ms.map Prod.fst).Pairwise (· < ·))
      (h : ∀ m ∈ ms, KeysSorted m.2) : KeysSorted (.object ms)

/-- The value can be read back from its texts, and its keys are in order. -/
structure IsOrderly (levels : Nat) (v : Json) : Prop where
  isReadable : IsReadable levels v
  keysSorted : KeysSorted v

namespace IsOrderly

variable {levels : Nat}

theorem null : IsOrderly levels .null := ⟨.flat .null, .null⟩

theorem bool (b : Bool) : IsOrderly levels (.bool b) := ⟨.flat (.bool b), .bool b⟩

theorem string (s : String) : IsOrderly levels (.string s) := ⟨.flat (.string s), .string s⟩

theorem optionalString (s : Option String) : IsOrderly levels (Json.optionalString s) := by
  cases s with
  | none => exact null
  | some s => exact string s

theorem nat {n : Nat} (h : n < Nat.pow 2 64) : IsOrderly levels (Json.nat n) :=
  ⟨.count h, .number _⟩

theorem array {vs : List Json} (h : ∀ v ∈ vs, IsOrderly levels v) :
    IsOrderly (levels + 1) (.array vs) :=
  ⟨.array fun v hv => (h v hv).isReadable, .array fun v hv => (h v hv).keysSorted⟩

theorem strings (ss : List String) : IsOrderly (levels + 1) (.array (ss.map Json.string)) := by
  refine array fun v hv => ?_
  obtain ⟨s, -, rfl⟩ := List.mem_map.1 hv
  exact string s

theorem object {ms : List (String × Json)} (hkeys : (ms.map Prod.fst).Pairwise (· < ·))
    (h : ∀ m ∈ ms, IsOrderly levels m.2) : IsOrderly (levels + 1) (.object ms) :=
  ⟨.object fun m hm => (h m hm).isReadable, .object hkeys fun m hm => (h m hm).keysSorted⟩

end IsOrderly

end Json

open Json (IsOrderly KeysSorted)

/-! ## Parts of a report -/

/-- Offsets and lengths are counts of 64 bits. -/
def Text.Span.FitsMachine (s : Span) : Prop :=
  s.offset < Nat.pow 2 64 ∧ s.length < Nat.pow 2 64

theorem Text.Span.isOrderly_toJson {s : Span} (h : s.FitsMachine) (levels : Nat) :
    IsOrderly (levels + 1) s.toJson := by
  have hkeys : ["length", "offset"].Pairwise (· < ·) := by decide
  refine .object (by exact hkeys) ?_
  rw [List.forall_mem_cons, List.forall_mem_singleton]
  exact ⟨.nat h.2, .nat h.1⟩

namespace Diagnostic

/-- The complaint is about a place that a machine can count to, or about none. -/
def FitsMachine (d : Diagnostic) : Prop := ∀ s ∈ d.span, s.FitsMachine

theorem isOrderly_optionalSpan {d : Diagnostic} (h : d.FitsMachine) (levels : Nat) :
    IsOrderly (levels + 1) (Json.optionalSpan d.span) := by
  cases hspan : d.span with
  | none => exact .null
  | some s => exact Text.Span.isOrderly_toJson (h s hspan) levels

theorem isOrderly_toJson {d : Diagnostic} (h : d.FitsMachine) (levels : Nat) :
    IsOrderly (levels + 2) d.toJson := by
  have hkeys : ["help", "kind", "message", "severity", "span"].Pairwise (· < ·) := by decide
  rw [toJson_eq]
  refine .object (by exact hkeys) ?_
  simp only [List.forall_mem_cons]
  exact ⟨.optionalString _, .string _, .string _, .string _, isOrderly_optionalSpan h levels,
    List.forall_mem_nil _⟩

end Diagnostic

namespace Command

theorem isOrderly_jsonReport (name : String) {ds : List Diagnostic}
    (h : ∀ d ∈ ds, d.FitsMachine) (levels : Nat) :
    IsOrderly (levels + 4) (jsonReport name ds) := by
  have hkeys : ["diagnostics", "errors", "file", "valid", "warnings"].Pairwise (· < ·) := by
    decide
  have hdiagnostics : IsOrderly (levels + 3) (.array (ds.map Diagnostic.toJson)) := by
    refine .array fun v hv => ?_
    obtain ⟨d, hd, rfl⟩ := List.mem_map.1 hv
    exact Diagnostic.isOrderly_toJson (h d hd) levels
  refine .object (by exact hkeys) ?_
  simp only [List.forall_mem_cons]
  exact ⟨hdiagnostics, .strings _, .string _, .bool _, .strings _, List.forall_mem_nil _⟩

/-! ## Reports -/

/-- The report on any complaints is one document, whose keys are in order at all levels.  What is
read from it is the name of the query, the complaints, and the verdict on them. -/
theorem exists_parse_report (name query : String) {ds : List Diagnostic}
    (h : ∀ d ∈ ds, d.FitsMachine) :
    ∃ line v w, Checked.report .json ⟨⟨name, query⟩, ds⟩ = [.output line] ∧
      Json.Spells v line.toList ∧ Json.parse (Event.output line).outputText = .ok v ∧
      KeysSorted v ∧ field? "diagnostics" v = some w ∧ Diagnostic.listOfJson? w = .ok ds ∧
      IsBlock name ds v := by
  obtain ⟨hreadable, hsorted⟩ := isOrderly_jsonReport name h (Json.greatestDepth - 4)
  refine ⟨(jsonReport name ds).pretty, jsonReport name ds, .array (ds.map Diagnostic.toJson), rfl,
    ?_, ?_, hsorted, rfl, Diagnostic.listOfJson?_map_toJson ds, isBlock_jsonReport name ds⟩
  · rw [Json.pretty, String.toList_ofList]
    exact Json.spells_prettyChars 0 (jsonReport name ds)
  · exact Json.parse_pretty_append hreadable (List.forall_mem_singleton.2 rfl)

/-- Complaints with quotes, escapes, line feeds and other characters that need care, and a severity
that is not the one of the kind. -/
def awkwardDiagnostics : List Diagnostic :=
  [⟨.unterminatedString, .warning, "\"it\\'s\"\n\t\x01 \u00e9\u2028", some ⟨3, 0⟩, none⟩,
    ⟨.noSchema, .error, "", none, some "\x7f/\r"⟩]

theorem exists_parse_awkwardDiagnostics :
    (∀ d ∈ awkwardDiagnostics, d.FitsMachine) ∧
      ∃ line v w, Checked.report .json ⟨⟨"a \"b\".sql", "SELECT 'a"⟩, awkwardDiagnostics⟩ =
          [.output line] ∧
        Json.Spells v line.toList ∧ Json.parse (Event.output line).outputText = .ok v ∧
        KeysSorted v ∧ field? "diagnostics" v = some w ∧
        Diagnostic.listOfJson? w = .ok awkwardDiagnostics ∧
        IsBlock "a \"b\".sql" awkwardDiagnostics v := by
  have hfits : ∀ d ∈ awkwardDiagnostics, d.FitsMachine := by
    rw [awkwardDiagnostics, List.forall_mem_cons, List.forall_mem_singleton]
    constructor
    · rintro s ⟨⟩
      exact ⟨by decide, by decide⟩
    · rintro s ⟨⟩
  exact ⟨hfits, exists_parse_report "a \"b\".sql" "SELECT 'a" hfits⟩

end Command

end QueryLint
