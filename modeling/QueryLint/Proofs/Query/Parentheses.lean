import QueryLint.Proofs.Query.Independence
import QueryLint.Proofs.Text.BalancedTexts

/-!
# Parentheses of a query

The parentheses of a query are read from the left, and all that is kept is how many of them are
open.  `ScanStep` is what one character does to that number, which is an integer here: that it does
not become negative is not a matter of its type but of the scan, which stops in front of a closing
parenthesis if nothing is open.  `ScanState.Sound` is what every step keeps: the number is the
difference of the two counts, and so far nothing was closed that was not open before.

Where the scan stops there is either a closing parenthesis too many, and the query up to there is
the shortest part in which more is closed than opened, or the end of the query.

* `IsParenthesisReport`: what is to be reported.
* `ScanState.Sound.step`, `ScanState.Sound.run`: what holds wherever the scan comes by.
* `scanParentheses_eq_nil_iff`: nothing is reported if the parentheses are balanced.
* `check_parentheses`: what is reported.
-/

namespace QueryLint.Query

open Text
open Schema (Model)

/-! ## What is to be reported -/

/-- The parentheses of a text. -/
def parentheses (cs : List Char) : List Char := cs.filter fun c => c = '(' || c = ')'

/-- In the text more parentheses are closed than opened. -/
def Exceeds (cs : List Char) : Prop := cs.count '(' < cs.count ')'

/-- What is to be reported about the parentheses of a query: the closing parenthesis that ends the
shortest part with too many of them, or else how many are left open. -/
inductive IsParenthesisReport (query : List Char) : List Finding → Prop
  | excess {front : List Char} (hfront : front ++ [')'] <+: query)
      (hexceeds : Exceeds (front ++ [')']))
      (hshortest : ∀ p, p <+: query → Exceeds p → front.length < p.length) :
      IsParenthesisReport query [.unexpectedClose (byteSize front)]
  | unclosed (hnone : ∀ p, p <+: query → ¬Exceeds p) (hlt : query.count ')' < query.count '(') :
      IsParenthesisReport query [.unclosed (query.count '(' - query.count ')')]
  | balanced (hnone : ∀ p, p <+: query → ¬Exceeds p) (heq : query.count '(' = query.count ')') :
      IsParenthesisReport query []

variable {query : List Char}

/-- There is one thing to be reported. -/
theorem IsParenthesisReport.unique {found found' : List Finding}
    (h : IsParenthesisReport query found) (h' : IsParenthesisReport query found') :
    found = found' := by
  cases h with
  | @excess front hfront hexceeds hshortest =>
    cases h' with
    | @excess front' hfront' hexceeds' hshortest' =>
      have hle := hshortest _ hfront' hexceeds'
      have hle' := hshortest' _ hfront hexceeds
      simp only [List.length_append, List.length_singleton] at hle hle'
      have hlength : (front ++ [')']).length = (front' ++ [')']).length := by
        simp only [List.length_append, List.length_singleton]
        omega
      have heq := (List.prefix_of_prefix_length_le hfront hfront' hlength.le).eq_of_length hlength
      rw [List.append_cancel_right heq]
    | unclosed hnone => exact absurd hexceeds (hnone _ hfront)
    | balanced hnone => exact absurd hexceeds (hnone _ hfront)
  | unclosed hnone hlt =>
    cases h' with
    | excess hfront hexceeds => exact absurd hexceeds (hnone _ hfront)
    | unclosed => rfl
    | balanced _ heq => exact absurd heq hlt.ne'
  | balanced hnone heq =>
    cases h' with
    | excess hfront hexceeds => exact absurd hexceeds (hnone _ hfront)
    | unclosed _ hlt => exact absurd heq hlt.ne'
    | balanced => rfl

/-! ## The scan step by step -/

/-- How many more parentheses are opened than closed. -/
def surplus (cs : List Char) : Int := cs.count '(' - cs.count ')'

theorem exceeds_iff {cs : List Char} : Exceeds cs ↔ surplus cs < 0 := by
  rw [Exceeds, surplus]
  omega

theorem surplus_concat_open (cs : List Char) : surplus (cs ++ ['(']) = surplus cs + 1 := by
  simp [surplus]
  omega

theorem surplus_concat_close (cs : List Char) : surplus (cs ++ [')']) = surplus cs - 1 := by
  simp [surplus]
  omega

theorem surplus_concat_other (cs : List Char) {c : Char} (hopen : c ≠ '(') (hclose : c ≠ ')') :
    surplus (cs ++ [c]) = surplus cs := by
  simp [surplus, hopen, hclose]

section Equations

variable (depth pos : Nat) (cs : List Char)

theorem scanParentheses_open :
    scanParentheses depth pos ('(' :: cs) = scanParentheses (depth + 1) (pos + '('.utf8Size) cs := by
  conv_lhs => unfold scanParentheses
  rw [if_pos rfl]

theorem scanParentheses_close :
    scanParentheses (depth + 1) pos (')' :: cs) = scanParentheses depth (pos + ')'.utf8Size) cs := by
  conv_lhs => unfold scanParentheses
  rw [if_neg (by decide), if_pos rfl]

theorem scanParentheses_close_zero : scanParentheses 0 pos (')' :: cs) = [.unexpectedClose pos] := by
  rw [scanParentheses, if_neg (by decide), if_pos rfl]

theorem scanParentheses_other {c : Char} (hopen : c ≠ '(') (hclose : c ≠ ')') :
    scanParentheses depth pos (c :: cs) = scanParentheses depth (pos + c.utf8Size) cs := by
  conv_lhs => unfold scanParentheses
  rw [if_neg hopen, if_neg hclose]

end Equations

/-- How many parentheses are open behind what has been read, and what is left. -/
structure ScanState where
  depth : Int
  before : List Char
  rest : List Char

/-- One character is read.  A closing parenthesis is not read if nothing is open. -/
inductive ScanStep : ScanState → ScanState → Prop
  | opening {depth : Int} {before rest : List Char} :
      ScanStep ⟨depth, before, '(' :: rest⟩ ⟨depth + 1, before ++ ['('], rest⟩
  | closing {depth : Int} {before rest : List Char} (h : depth ≠ 0) :
      ScanStep ⟨depth, before, ')' :: rest⟩ ⟨depth - 1, before ++ [')'], rest⟩
  | other {depth : Int} {before rest : List Char} {c : Char} (hopen : c ≠ '(') (hclose : c ≠ ')') :
      ScanStep ⟨depth, before, c :: rest⟩ ⟨depth, before ++ [c], rest⟩

/-- The scan comes from one state to another. -/
abbrev ScanRun : ScanState → ScanState → Prop := Relation.ReflTransGen ScanStep

/-- What holds of the states that the scan of the query comes by. -/
structure ScanState.Sound (query : List Char) (s : ScanState) : Prop where
  eq_append : query = s.before ++ s.rest
  depth_eq : s.depth = surplus s.before
  not_exceeds : ∀ p, p <+: s.before → ¬Exceeds p
  findings_eq : scanParentheses 0 0 query =
    scanParentheses s.depth.toNat (byteSize s.before) s.rest

/-- Nothing more is read: the query ends, or a parenthesis is closed that is not open. -/
def ScanState.Stopped (s : ScanState) : Prop :=
  s.rest = [] ∨ (s.depth = 0 ∧ ∃ rest, s.rest = ')' :: rest)

namespace ScanState

variable {s t : ScanState}

theorem Sound.depth_nonneg (h : s.Sound query) : 0 ≤ s.depth := by
  have hbefore := h.not_exceeds _ (List.prefix_refl s.before)
  rwa [exceeds_iff, ← h.depth_eq, Int.not_lt] at hbefore

theorem sound_start (query : List Char) : Sound query ⟨0, [], query⟩ where
  eq_append := rfl
  depth_eq := rfl
  not_exceeds p hp := by
    rw [List.prefix_nil.1 hp]
    exact Nat.lt_irrefl 0
  findings_eq := rfl

theorem byteSize_concat (cs : List Char) (c : Char) :
    byteSize (cs ++ [c]) = byteSize cs + c.utf8Size := by
  rw [byteSize_append, byteSize_cons, byteSize_nil, Nat.add_zero]

/-- What holds before a character is read holds behind it, if the number of open parentheses is
still right and not negative. -/
theorem Sound.next {depth depth' : Int} {before rest : List Char} {c : Char}
    (h : Sound query ⟨depth, before, c :: rest⟩) (hdepth : depth' = surplus (before ++ [c]))
    (hnonneg : 0 ≤ depth')
    (hfindings : scanParentheses depth.toNat (byteSize before) (c :: rest) =
      scanParentheses depth'.toNat (byteSize before + c.utf8Size) rest) :
    Sound query ⟨depth', before ++ [c], rest⟩ where
  eq_append := by rw [h.eq_append, ← List.append_cons]
  depth_eq := hdepth
  not_exceeds p hp := by
    rcases List.prefix_concat_iff.1 hp with rfl | hp
    · rw [exceeds_iff, ← hdepth]
      exact Int.not_lt.2 hnonneg
    · exact h.not_exceeds p hp
  findings_eq := by rw [h.findings_eq, hfindings, byteSize_concat]

/-- Every step keeps what holds. -/
theorem Sound.step (h : s.Sound query) (hstep : ScanStep s t) : t.Sound query := by
  have hdepth := h.depth_eq
  cases hstep with
  | @opening depth before rest =>
    have hnonneg : 0 ≤ depth := h.depth_nonneg
    have hnat : (depth + 1).toNat = depth.toNat + 1 := by omega
    refine h.next ?_ (by omega) ?_
    · rw [surplus_concat_open, ← hdepth]
    · rw [hnat, scanParentheses_open]
  | @closing depth before rest hne =>
    have hnonneg : 0 ≤ depth := h.depth_nonneg
    have hnat : depth.toNat = (depth - 1).toNat + 1 := by omega
    refine h.next ?_ (by omega) ?_
    · rw [surplus_concat_close, ← hdepth]
    · rw [hnat, scanParentheses_close]
  | other hopen hclose =>
    refine h.next ?_ h.depth_nonneg ?_
    · rw [surplus_concat_other _ hopen hclose, ← hdepth]
    · rw [scanParentheses_other _ _ _ hopen hclose]

/-- It holds wherever the scan comes by. -/
theorem Sound.run (h : s.Sound query) (hrun : ScanRun s t) : t.Sound query := by
  induction hrun with
  | refl => exact h
  | tail _ hstep ih => exact ih.step hstep

/-- The number of open parentheses is made smaller only if it is positive. -/
theorem Sound.depth_pos (h : s.Sound query) (hstep : ScanStep s t) (hlt : t.depth < s.depth) :
    0 < s.depth := by
  have hnonneg := h.depth_nonneg
  cases hstep with
  | @opening depth =>
    have hmore : depth + 1 < depth := hlt
    omega
  | closing hne => exact lt_of_le_of_ne hnonneg hne.symm
  | other => exact absurd hlt (lt_irrefl _)

/-- The scan stops somewhere. -/
theorem exists_stopped (s : ScanState) : ∃ t, ScanRun s t ∧ t.Stopped := by
  obtain ⟨depth, before, rest⟩ := s
  induction rest generalizing depth before with
  | nil => exact ⟨_, .refl, Or.inl rfl⟩
  | cons c rest ih =>
    have hgo {depth' : Int} (hstep : ScanStep ⟨depth, before, c :: rest⟩
        ⟨depth', before ++ [c], rest⟩) : ∃ t, ScanRun ⟨depth, before, c :: rest⟩ t ∧ t.Stopped := by
      obtain ⟨t, hrun, hstopped⟩ := ih depth' (before ++ [c])
      exact ⟨t, .head hstep hrun, hstopped⟩
    by_cases hopen : c = '('
    · subst hopen
      exact hgo .opening
    by_cases hclose : c = ')'
    · subst hclose
      by_cases hdepth : depth = 0
      · exact ⟨_, .refl, Or.inr ⟨hdepth, rest, rfl⟩⟩
      · exact hgo (.closing hdepth)
    · exact hgo (.other hopen hclose)

/-- At the end of the query it is known how many parentheses are left open. -/
theorem Sound.isParenthesisReport_of_nil {depth : Int} {before : List Char}
    (h : Sound query ⟨depth, before, []⟩) :
    IsParenthesisReport query (scanParentheses 0 0 query) := by
  have hnonneg : 0 ≤ depth := h.depth_nonneg
  have hdepth : depth = surplus before := h.depth_eq
  have hnot := h.not_exceeds
  have hfindings := h.findings_eq
  obtain rfl : query = before := h.eq_append.trans (List.append_nil before)
  rw [surplus] at hdepth
  rw [hfindings, scanParentheses]
  by_cases hzero : depth.toNat = 0
  · rw [if_pos hzero]
    exact .balanced hnot (by omega)
  · have hcount : depth.toNat = query.count '(' - query.count ')' := by omega
    rw [if_neg hzero, hcount]
    exact .unclosed hnot (by omega)

/-- In front of a closing parenthesis too many everything is balanced. -/
theorem Sound.isParenthesisReport_of_close {before rest : List Char}
    (h : Sound query ⟨0, before, ')' :: rest⟩) :
    IsParenthesisReport query (scanParentheses 0 0 query) := by
  have hfront : before ++ [')'] <+: query := ⟨rest, by rw [h.eq_append, ← List.append_cons]⟩
  have hexceeds : Exceeds (before ++ [')']) := by
    have hdepth : 0 = surplus before := h.depth_eq
    rw [exceeds_iff, surplus_concat_close, ← hdepth]
    decide
  have hfindings : scanParentheses 0 0 query =
      scanParentheses 0 (byteSize before) (')' :: rest) := h.findings_eq
  rw [hfindings, scanParentheses_close_zero]
  refine .excess hfront hexceeds fun p hp hp' => ?_
  by_contra hle
  have hbefore : before <+: query := (List.prefix_append before [')']).trans hfront
  exact h.not_exceeds p (List.prefix_of_prefix_length_le hp hbefore (Nat.le_of_not_lt hle)) hp'

theorem Sound.isParenthesisReport (h : s.Sound query) (hstopped : s.Stopped) :
    IsParenthesisReport query (scanParentheses 0 0 query) := by
  obtain ⟨depth, before, rest⟩ := s
  rcases hstopped with hrest | ⟨hzero, rest', hrest⟩
  · obtain rfl : rest = [] := hrest
    exact h.isParenthesisReport_of_nil
  · obtain rfl : depth = 0 := hzero
    obtain rfl : rest = ')' :: rest' := hrest
    exact h.isParenthesisReport_of_close

end ScanState

theorem isParenthesisReport_scanParentheses (query : List Char) :
    IsParenthesisReport query (scanParentheses 0 0 query) := by
  obtain ⟨s, hrun, hstopped⟩ := ScanState.exists_stopped ⟨0, [], query⟩
  exact ((ScanState.sound_start query).run hrun).isParenthesisReport hstopped

/-! ## The grammar -/

theorem parentheses_cons_other {c : Char} {cs : List Char} (hopen : c ≠ '(') (hclose : c ≠ ')') :
    parentheses (c :: cs) = parentheses cs :=
  List.filter_cons_of_neg (by simp [hopen, hclose])

/-- From any depth on nothing is reported if what is left closes what is open. -/
theorem scanParentheses_eq_nil_iff {depth pos : Nat} {cs : List Char} :
    scanParentheses depth pos cs = [] ↔ Closes depth (parentheses cs) := by
  induction cs generalizing depth pos with
  | nil =>
    rw [scanParentheses, parentheses, List.filter_nil, closes_nil_iff, ite_eq_left_iff]
    simp
  | cons c cs ih =>
    by_cases hopen : c = '('
    · subst hopen
      rw [scanParentheses_open, ih, ← closes_open_iff]
      rfl
    by_cases hclose : c = ')'
    · subst hclose
      have hcons : parentheses (')' :: cs) = ')' :: parentheses cs := rfl
      rw [hcons, closes_close_iff]
      cases depth with
      | zero =>
        rw [scanParentheses_close_zero]
        exact iff_of_false (List.cons_ne_nil _ _) (by rintro ⟨depth, h, -⟩; cases h)
      | succ depth =>
        rw [scanParentheses_close, ih]
        constructor
        · exact fun h => ⟨depth, rfl, h⟩
        · rintro ⟨depth', h, hcs⟩
          obtain rfl := Nat.succ.inj h
          exact hcs
    · rw [scanParentheses_other _ _ _ hopen hclose, ih, parentheses_cons_other hopen hclose]

/-! ## What is reported -/

/-- The kinds of findings about parentheses. -/
def parenthesisKinds : List DiagnosticKind := [.unbalancedParentheses, .unclosedParenthesis]

theorem IsParenthesisReport.kind_mem {found : List Finding} (h : IsParenthesisReport query found) :
    ∀ f ∈ found, f.kind ∈ parenthesisKinds := by
  cases h with
  | excess => exact List.forall_mem_singleton.2 List.mem_cons_self
  | unclosed => exact List.forall_mem_singleton.2 (List.mem_cons_of_mem _ List.mem_cons_self)
  | balanced => exact List.forall_mem_nil _

/-- A closing parenthesis is reported if and only if in some part there are too many. -/
theorem IsParenthesisReport.exists_unexpectedClose_iff {found : List Finding}
    (h : IsParenthesisReport query found) :
    (∃ offset, found = [.unexpectedClose offset]) ↔ ∃ p, p <+: query ∧ Exceeds p := by
  cases h with
  | excess hfront hexceeds => exact iff_of_true ⟨_, rfl⟩ ⟨_, hfront, hexceeds⟩
  | unclosed hnone =>
    refine iff_of_false (by simp) ?_
    rintro ⟨p, hp, hexceeds⟩
    exact hnone p hp hexceeds
  | balanced hnone =>
    refine iff_of_false (by simp) ?_
    rintro ⟨p, hp, hexceeds⟩
    exact hnone p hp hexceeds

theorem filter_balanceFindings_parentheses (query : List Char) :
    (balanceFindings query).filter (fun f => f.kind ∈ parenthesisKinds) =
      scanParentheses 0 0 query := by
  have hscan := List.filter_eq_self.2 fun f hf =>
    decide_eq_true ((isParenthesisReport_scanParentheses query).kind_mem f hf)
  have htable : codesOf ((adjacentSpan? "from" "where" (wordsOf query)).map
      Finding.missingTableName).toList ∈ (optional "E0007").matches' :=
    codesOf_map_toList fun _ => rfl
  have hcolumns : codesOf ((adjacentSpan? "select" "from" (wordsOf query)).map
      Finding.missingColumnList).toList ∈ (optional "E0008").matches' :=
    codesOf_map_toList fun _ => rfl
  simp only [balanceFindings, List.filter_append, hscan]
  rw [filter_kinds_eq_nil parenthesisKinds (codesOf_ite rfl) (by decide),
    filter_kinds_eq_nil parenthesisKinds (codesOf_ite rfl) (by decide),
    filter_kinds_eq_nil parenthesisKinds htable (by decide),
    filter_kinds_eq_nil parenthesisKinds hcolumns (by decide)]
  simp only [List.nil_append, List.append_nil]

/-- There is one report about the parentheses of the trimmed query, and the complaints about
parentheses are made of it.  It is empty if the grammar generates the parentheses, and it is about a
closing parenthesis if in some part of the query there are too many of them.  The scan that leads to
it never takes away from a number of open parentheses that is not positive. -/
theorem check_parentheses (query : String) :
    ∃ found : List Finding,
      (∀ found', IsParenthesisReport (trim query.toList) found' ↔ found' = found) ∧
      (found = [] ↔ parentheses (trim query.toList) ∈ parenthesisGrammar.language) ∧
      ((∃ offset, found = [.unexpectedClose offset]) ↔
        ∃ p, p <+: trim query.toList ∧ Exceeds p) ∧
      (∀ s, ScanRun ⟨0, [], trim query.toList⟩ s →
        s.Sound (trim query.toList) ∧ ∀ t, ScanStep s t → t.depth < s.depth → 0 < s.depth) ∧
      ∀ schema : Option Model,
        (check schema query).filter (fun d => d.kind ∈ parenthesisKinds) =
          found.map fun f => f.diagnostic.shifted (byteSize (blankPrefix query.toList)) := by
  have hreport := isParenthesisReport_scanParentheses (trim query.toList)
  refine ⟨scanParentheses 0 0 (trim query.toList), fun found' => ⟨fun h => h.unique hreport, ?_⟩,
    ?_, hreport.exists_unexpectedClose_iff, fun s hrun => ?_, fun schema => ?_⟩
  · rintro rfl
    exact hreport
  · rw [mem_language_iff_balanced]
    exact scanParentheses_eq_nil_iff
  · have hsound := (ScanState.sound_start (trim query.toList)).run hrun
    exact ⟨hsound, fun t => hsound.depth_pos⟩
  · have hkeep : ∀ k, decide (k ∈ parenthesisKinds) = true → k.code ∈ Pass.balance.codes := by
      intro k
      cases k <;> decide
    rw [filter_check_run .balance hkeep, Pass.run, filter_balanceFindings_parentheses]
    rfl

/-- Offsets are counted in bytes, and what stands behind is not looked at. -/
example : scanParentheses 0 0 "(é)) + (".toList = [.unexpectedClose 4] := by decide +kernel

end QueryLint.Query
