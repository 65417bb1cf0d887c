import QueryLint.Proofs.Text.Marking
import QueryLint.Proofs.Text.Trimming
import QueryLint.Query.Check

/-!
# White space around a query

A query is trimmed before anything is looked for in it, so every pass sees the same text whether
or not there is white space around the query.  The only trace of what stands in front is the
distance by which spans are moved back (`check_append_of_blank`), and a verdict does not even show
that.

A query of nothing but white space is the exception in the argument.  There white space behind
the query counts as standing in front, so the distance is not what was put in front; but in an
empty text nothing with a span is found (`span?_of_mem_findings_nil`), and no distance matters.
-/

namespace QueryLint

/-- A verdict does not depend on spans. -/
theorem Verdict.ofDiagnostics_map_shifted (ds : List Diagnostic) (base : Nat) :
    ofDiagnostics (ds.map (·.shifted base)) = ofDiagnostics ds := by
  have herr : Diagnostic.isError ∘ (·.shifted base) = Diagnostic.isError := rfl
  have hmsg : Diagnostic.message ∘ (·.shifted base) = Diagnostic.message := rfl
  simp only [ofDiagnostics, List.any_map, List.filter_map, List.map_map, herr, hmsg]
  rfl

namespace Query

open Text
open Schema (Model)

theorem joinFindings_nil : joinFindings [] = [] := by
  have hwords : wordsOf [] = [] := rfl
  simp [joinFindings, crossJoinSpan?, joinUses, hwords]

/-- Nothing that is found in an empty text has a span. -/
theorem span?_of_mem_findings_nil {schema : Option Model} {f : Finding}
    (hf : f ∈ findings schema []) : f.span? = none := by
  have hbalance : balanceFindings [] = [] := rfl
  have hgrouping : groupingFindings [] = [] := rfl
  have hsafety : safetyFindings [] = [] := rfl
  rw [findings_eq_append, hbalance, hgrouping, joinFindings_nil, hsafety] at hf
  cases schema with
  | none =>
    obtain rfl := List.mem_singleton.1 hf
    rfl
  | some m => exact absurd hf List.not_mem_nil

/-- White space around a query moves the spans of all complaints by the bytes in front, and
changes nothing else. -/
theorem check_append_of_blank (schema : Option Model) {p s : String} (q : String)
    (hp : IsBlankText p.toList) (hs : IsBlankText s.toList) :
    check schema (p ++ q ++ s) = (check schema q).map (·.shifted p.utf8ByteSize) ∧
      validate schema (p ++ q ++ s) = validate schema q := by
  have hcheck : check schema (p ++ q ++ s) = (check schema q).map (·.shifted p.utf8ByteSize) := by
    simp only [check, String.toList_append, trim_append_of_blank hp _ hs, List.map_map]
    refine List.map_congr_left fun f hf => ?_
    by_cases hq : IsBlankText q.toList
    · rw [trim_eq_nil_iff.2 hq] at hf
      have hspan : f.diagnostic.span = none := span?_of_mem_findings_nil hf
      simp only [Function.comp_apply, Diagnostic.shifted_of_span_eq_none hspan]
    · rw [blankPrefix_append_of_blank hp hq, byteSize_append, byteSize_toList,
        Function.comp_apply, Diagnostic.shifted_shifted, Nat.add_comm]
  refine ⟨hcheck, ?_⟩
  rw [validate, hcheck, Verdict.ofDiagnostics_map_shifted, validate]

/-- White space of three bytes in front and of two bytes behind. -/
theorem check_between_wide_spaces :
    IsBlankText "\u3000".toList ∧ IsBlankText "\u00A0".toList ∧
      check none ("\u3000" ++ " SELECT 1)" ++ "\u00A0") =
        (check none " SELECT 1)").map (·.shifted "\u3000".utf8ByteSize) ∧
      validate none ("\u3000" ++ " SELECT 1)" ++ "\u00A0") = validate none " SELECT 1)" := by
  have hp : IsBlankText "\u3000".toList := by decide
  have hs : IsBlankText "\u00A0".toList := by decide
  exact ⟨hp, hs, check_append_of_blank none " SELECT 1)" hp hs⟩

end Query

end QueryLint
