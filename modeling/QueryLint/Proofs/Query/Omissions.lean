import Mathlib.Algebra.Ring.Parity
import QueryLint.Proofs.Query.Independence
import QueryLint.Proofs.Query.Neighbours

/-!
# Quotes and lists that are left out

The first pass reports four things beside parentheses.  Two of them are about quotes, and there only
their number counts: if it is odd, one of them has no partner.  So two queries of which neither is
complete may well be complete together, and what is reported of both follows from what is reported
of each (`mem_check_append_iff`).  The other two are about a list that is left out, between FROM and
WHERE or between SELECT and FROM, and there the first place at which the two words stand side by
side counts.

* `unpairedQuotes`: the quotes without a partner.
* `IsOmissionReport`: what is to be reported; `patternOmissions`: the same by way of patterns.
* `check_omissions`: what is reported.
-/

namespace QueryLint.Query

open Text
open Schema (Model)

/-- The quotes, and what is to be reported if there is one without a partner. -/
def quotes : List (Char × Finding) :=
  [('\'', .unterminatedString), ('"', .unterminatedIdentifier)]

/-- The kinds of findings about quotes. -/
def quoteKinds : List DiagnosticKind := quotes.map fun q => q.2.kind

/-- The kinds of findings about quotes and lists that are left out. -/
def omissionKinds : List DiagnosticKind := quoteKinds ++ [.missingTableName, .missingColumnList]

/-- What is to be reported of quotes: those that occur an odd number of times. -/
def unpairedQuotes (query : List Char) : List Finding :=
  (quotes.filter fun q => Odd (query.count q.1)).map Prod.snd

/-- What is to be reported: first the quotes, and then the first places at which the name of a table
and the list of columns are left out. -/
inductive IsOmissionReport (query : List Char) : List Finding → Prop
  | mk {table columns : Option Span}
      (htable : IsFirstSpan (IsSideBySide "from" "where") query table)
      (hcolumns : IsFirstSpan (IsSideBySide "select" "from") query columns) :
      IsOmissionReport query (unpairedQuotes query ++
        (table.map Finding.missingTableName).toList ++
          (columns.map Finding.missingColumnList).toList)

/-- The span that the pattern for two keywords keeps. -/
def keptSpan? (first second : String) (query : List Char) : Option Span :=
  (((sideBySide first second).find? [] query).bind fun y => y.kept.head?).map Part.span

/-- What the patterns lead to. -/
def patternOmissions (query : List Char) : List Finding :=
  unpairedQuotes query ++
    ((keptSpan? "from" "where" query).map Finding.missingTableName).toList ++
      ((keptSpan? "select" "from" query).map Finding.missingColumnList).toList

section Report

variable {query : List Char}

/-! ## There is one report -/

/-- The patterns lead to the report. -/
theorem isOmissionReport_iff {found : List Finding} :
    IsOmissionReport query found ↔ found = patternOmissions query := by
  have hall : ∀ s ∈ ["select", "from", "where"], IsWordText s.toList :=
    isWordText_of_all (by decide)
  have htable {s : Option Span} : IsFirstSpan (IsSideBySide "from" "where") query s ↔
      s = keptSpan? "from" "where" query :=
    isFirstSpan_iff_find? (hall _ (by simp)) (hall _ (by simp))
  have hcolumns {s : Option Span} : IsFirstSpan (IsSideBySide "select" "from") query s ↔
      s = keptSpan? "select" "from" query :=
    isFirstSpan_iff_find? (hall _ (by simp)) (hall _ (by simp))
  constructor
  · rintro ⟨h, h'⟩
    rw [htable.1 h, hcolumns.1 h', patternOmissions]
  · rintro rfl
    exact .mk (htable.2 rfl) (hcolumns.2 rfl)

/-! ## What the pass finds -/

theorem oddlyMany_eq_decide (c : Char) (cs : List Char) :
    oddlyMany c cs = decide (Odd (cs.count c)) := by
  rw [Bool.eq_iff_iff, oddlyMany, beq_iff_eq, decide_eq_true_iff, Nat.odd_iff]

theorem unpairedQuotes_eq (query : List Char) : unpairedQuotes query =
    (if oddlyMany '\'' query then [.unterminatedString] else []) ++
      (if oddlyMany '"' query then [.unterminatedIdentifier] else []) := by
  simp only [unpairedQuotes, quotes, oddlyMany_eq_decide, List.filter_cons, List.filter_nil]
  split <;> split <;> rfl

theorem kind_mem_quoteKinds {f : Finding} (h : f ∈ unpairedQuotes query) : f.kind ∈ quoteKinds := by
  obtain ⟨q, hq, rfl⟩ := List.mem_map.1 h
  exact List.mem_map_of_mem (List.mem_of_mem_filter hq)

theorem IsOmissionReport.kind_mem {found : List Finding} (h : IsOmissionReport query found) :
    ∀ f ∈ found, f.kind ∈ omissionKinds := by
  obtain ⟨-, -⟩ := h
  intro f hf
  rw [List.mem_append, List.mem_append, Option.mem_toList, Option.mem_toList] at hf
  rcases hf with (hquote | htable) | hcolumns
  · exact List.mem_append_left _ (kind_mem_quoteKinds hquote)
  · obtain ⟨s, -, rfl⟩ := Option.map_eq_some_iff.1 htable
    exact (by decide : DiagnosticKind.missingTableName ∈ omissionKinds)
  · obtain ⟨s, -, rfl⟩ := Option.map_eq_some_iff.1 hcolumns
    exact (by decide : DiagnosticKind.missingColumnList ∈ omissionKinds)

/-- What the pass finds beside parentheses is the report. -/
theorem isOmissionReport_balanceFindings (query : List Char) :
    IsOmissionReport query
      ((balanceFindings query).filter fun f => f.kind ∈ omissionKinds) := by
  have hreport := IsOmissionReport.mk (isFirstSpan_adjacentSpan? "from" "where" query)
    (isFirstSpan_adjacentSpan? "select" "from" query)
  have hall := List.filter_eq_self.2 fun f hf => decide_eq_true (hreport.kind_mem f hf)
  have hscan : (scanParentheses 0 0 query).filter (fun f => f.kind ∈ omissionKinds) = [] :=
    filter_kinds_eq_nil omissionKinds (codesOf_scanParentheses 0 0 query) (by decide)
  simp only [List.filter_append] at hall
  simp only [balanceFindings, ← unpairedQuotes_eq, List.filter_append, hscan, List.append_nil,
    hall]
  exact hreport

end Report

/-- The complaints about omissions are the report on the trimmed query. -/
theorem filter_check_omissions (schema : Option Model) (query : String) :
    (check schema query).filter (fun d => d.kind ∈ omissionKinds) =
      complaints (byteSize (blankPrefix query.toList)) (patternOmissions (trim query.toList)) := by
  have hkeep : ∀ k, decide (k ∈ omissionKinds) = true → k.code ∈ Pass.balance.codes := by
    intro k
    cases k <;> decide
  rw [filter_check_run .balance hkeep, Pass.run,
    isOmissionReport_iff.1 (isOmissionReport_balanceFindings (trim query.toList))]

/-! ## Quotes of two queries -/

/-- Trimming takes away no other characters than white space. -/
theorem count_trim {c : Char} (hc : isBlank c = false) (cs : List Char) :
    (trim cs).count c = cs.count c := by
  have hblank {bs : List Char} (hbs : IsBlankText bs) : bs.count c = 0 := by
    rw [List.count_eq_zero]
    intro hmem
    rw [hbs c hmem] at hc
    cases hc
  conv_rhs => rw [← blankPrefix_append_trim_append_blankSuffix cs]
  have hsuffix : IsBlankText (blankSuffix cs) := fun d hd => List.mem_rtakeWhile_imp hd
  rw [List.count_append, List.count_append, hblank (isBlankText_blankPrefix cs), hblank hsuffix,
    Nat.zero_add, Nat.add_zero]

theorem isBlank_of_mem_quotes : ∀ q ∈ quotes, isBlank q.1 = false := by decide

/-- A complaint about quotes is there if some quote occurs an odd number of times. -/
theorem mem_check_iff_of_mem_quoteKinds {schema : Option Model} {query : String} {d : Diagnostic}
    (hd : d.kind ∈ quoteKinds) : d ∈ check schema query ↔
      ∃ q ∈ quotes, d = q.2.diagnostic ∧ Odd (query.toList.count q.1) := by
  have hshift : ∀ q ∈ quotes, ∀ base, q.2.diagnostic.shifted base = q.2.diagnostic :=
    List.forall_mem_cons.2 ⟨fun _ => rfl, List.forall_mem_singleton.2 fun _ => rfl⟩
  have homission : d.kind ∈ omissionKinds := List.mem_append_left _ hd
  have hkind : d ∈ check schema query ↔
      d ∈ (check schema query).filter fun d => d.kind ∈ omissionKinds := by
    rw [List.mem_filter, and_iff_left (decide_eq_true homission)]
  rw [hkind, filter_check_omissions, complaints, List.mem_map]
  constructor
  · rintro ⟨f, hf, rfl⟩
    rw [patternOmissions, List.mem_append, List.mem_append, Option.mem_toList,
      Option.mem_toList] at hf
    rcases hf with (hquote | htable) | hcolumns
    · obtain ⟨q, hq, rfl⟩ := List.mem_map.1 hquote
      obtain ⟨hq, hodd⟩ := List.mem_filter.1 hq
      rw [decide_eq_true_iff, count_trim (isBlank_of_mem_quotes q hq)] at hodd
      exact ⟨q, hq, hshift q hq _, hodd⟩
    · obtain ⟨s, -, rfl⟩ := Option.map_eq_some_iff.1 htable
      exact absurd hd (by decide : DiagnosticKind.missingTableName ∉ quoteKinds)
    · obtain ⟨s, -, rfl⟩ := Option.map_eq_some_iff.1 hcolumns
      exact absurd hd (by decide : DiagnosticKind.missingColumnList ∉ quoteKinds)
  · rintro ⟨q, hq, rfl, hodd⟩
    rw [← count_trim (isBlank_of_mem_quotes q hq)] at hodd
    refine ⟨q.2, ?_, hshift q hq _⟩
    exact List.mem_append_left _ (List.mem_append_left _
      (List.mem_map_of_mem (List.mem_filter.2 ⟨hq, decide_eq_true hodd⟩)))

/-- What is said of a quote tells which quote it is. -/
theorem eq_of_mem_quotes : ∀ q ∈ quotes, ∀ q' ∈ quotes, q.2.diagnostic = q'.2.diagnostic →
    q = q' := by decide

/-- Of two queries one behind the other a complaint about quotes is made if it is made of just one
of them. -/
theorem mem_check_append_iff {schema : Option Model} {d : Diagnostic} (hd : d.kind ∈ quoteKinds)
    (query other : String) : d ∈ check schema (query ++ other) ↔
      Xor (d ∈ check schema query) (d ∈ check schema other) := by
  simp only [mem_check_iff_of_mem_quoteKinds hd]
  by_cases hquote : ∃ q ∈ quotes, d = q.2.diagnostic
  · obtain ⟨q, hq, rfl⟩ := hquote
    have hodd (cs : List Char) :
        (∃ q' ∈ quotes, q.2.diagnostic = q'.2.diagnostic ∧ Odd (cs.count q'.1)) ↔
          Odd (cs.count q.1) := by
      constructor
      · rintro ⟨q', hq', hsame, hodd⟩
        rwa [eq_of_mem_quotes q hq q' hq' hsame]
      · exact fun hodd => ⟨q, hq, rfl, hodd⟩
    rw [hodd, hodd, hodd, String.toList_append, List.count_append, Nat.odd_add,
      ← Nat.not_odd_iff_even, xor_iff_iff_not]
  · -- it is made of no query
    have hnone (cs : List Char) :
        ¬∃ q ∈ quotes, d = q.2.diagnostic ∧ Odd (cs.count q.1) := by
      rintro ⟨q, hq, hdiag, -⟩
      exact hquote ⟨q, hq, hdiag⟩
    simp only [hnone, xor_self]

/-- There is one report about quotes and omissions of the trimmed query.  It is what the patterns
lead to, and the complaints are made of it.  The complaints about the quotes of two queries one
behind the other are those that are made of just one of them. -/
theorem check_omissions (query : String) :
    ∃ found : List Finding,
      (∀ found', IsOmissionReport (trim query.toList) found' ↔ found' = found) ∧
      patternOmissions (trim query.toList) = found ∧
      ∀ schema : Option Model,
        (check schema query).filter (fun d => d.kind ∈ omissionKinds) =
            found.map (fun f => f.diagnostic.shifted (byteSize (blankPrefix query.toList))) ∧
          ∀ (other : String) (d : Diagnostic), d.kind ∈ quoteKinds →
            (d ∈ check schema (query ++ other) ↔
              Xor (d ∈ check schema query) (d ∈ check schema other)) :=
  ⟨_, fun _ => isOmissionReport_iff, rfl, fun schema =>
    ⟨filter_check_omissions schema query, fun other _ hd => mem_check_append_iff hd query other⟩⟩

/-- The long s counts as an s, and a word that goes on is none of the keywords. -/
example : (balanceFindings "ſELECT\n\tFROM from_ FROM  WHERE 'a''".toList) =
    [.unterminatedString, .missingTableName ⟨20, 11⟩, .missingColumnList ⟨0, 13⟩] := by
  decide +kernel

end QueryLint.Query
