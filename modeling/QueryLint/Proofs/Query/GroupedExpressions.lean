import QueryLint.Proofs.Query.ColumnNames
import QueryLint.Proofs.Query.Neighbours

/-!
# Grouped expressions

A query is grouped if GROUP and BY stand in it as neighbours.  Only if it is not, an aggregate
beside a qualified column is suspicious.  If it is, the expressions behind a GROUP BY are compared
with the list behind SELECT; there may be none to compare, since a GROUP BY counts as such also
where no white space, and so no list, follows it.

`IsGroupingReport` tells the four outcomes about the text itself.  The first word with a property is
what matters in each of them, so the text is never cut into words.  The same outcomes are reached by
way of three patterns (`patternReport`), in the order in which they are tried.

* `IsGrouped`, `IsListed`, `IsCall`: the words that the outcomes depend on.
* `IsGroupingReport`: what is to be reported.
* `patternReport_eq`: what the patterns lead to.
* `check_grouping`: what is reported.
-/

namespace QueryLint.Query

open Text
open Schema (Model)

/-! ## What is to be reported -/

/-- The word is GROUP, and behind white space BY follows, with `behind` after it. -/
structure IsGroupBy (word blanks next behind : List Char) : Prop where
  isGroup : IsOneOf ["group"] word
  isNext : IsNext word blanks next behind
  isBy : IsOneOf ["by"] next

/-- A GROUP BY begins with the word. -/
def IsGrouped (word after : List Char) : Prop :=
  ∃ blanks next behind, after = blanks ++ (next ++ behind) ∧ IsGroupBy word blanks next behind

/-- A GROUP BY begins with the word, and white space follows. -/
def IsListed (word after : List Char) : Prop :=
  ∃ blanks next behind, after = blanks ++ (next ++ behind) ∧ IsGroupBy word blanks next behind ∧
    ∃ c ∈ behind.head?, isBlank c = true

/-- The word is an aggregate, and there is nothing but white space between it and a parenthesis. -/
def IsCall (word after : List Char) : Prop :=
  IsOneOf aggregates word ∧ ∃ blanks behind, after = blanks ++ (['('] ++ behind) ∧
    IsBlankText blanks

/-- The pieces between the commas, without white space around them, that are not empty and do not
occur in the list. -/
def unselected (list grouped : List Char) : List (List Char) :=
  ((grouped.splitOn ',').map trim).filter fun e => e ≠ [] ∧ ¬e <:+: list

/-- What is to be reported about a query with this list behind SELECT. -/
inductive IsGroupingReport (query : List Char) : Option (List Char) → List Finding → Prop
  /-- There is no GROUP BY, but an aggregate, and a qualified column in the list. -/
  | missing {list front word blanks behind : List Char}
      (hnone : HasNoRun (fun _ => IsGrouped) query)
      (hcall : IsFirstRun (fun _ => IsCall) query front word (blanks ++ (['('] ++ behind)))
      (hblanks : IsBlankText blanks) (hlist : HasDotted list) :
      IsGroupingReport query (some list)
        [.missingGroupBy (.ofParts front (word ++ blanks ++ ['(']))]
  /-- There is no GROUP BY, and no aggregate or no qualified column. -/
  | unsuspicious {list : Option (List Char)} (hnone : HasNoRun (fun _ => IsGrouped) query)
      (h : HasNoRun (fun _ => IsCall) query ∨ ∀ l ∈ list, ¬HasDotted l) :
      IsGroupingReport query list []
  /-- There is a list behind SELECT, and a list behind the first GROUP BY with white space. -/
  | listed {list front word blanks next gap grouped closer after : List Char}
      (hfirst : IsFirstRun (fun _ => IsListed) query front word
        (blanks ++ (next ++ (gap ++ (grouped ++ (closer ++ after))))))
      (hgroup : IsGroupBy word blanks next (gap ++ (grouped ++ (closer ++ after))))
      (hbody : IsBody ["order", "having", "limit"] gap grouped closer after) :
      IsGroupingReport query (some list)
        ((unselected list grouped).map fun e => .groupByNotSelected (String.ofList e))
  /-- There is a GROUP BY, but one of the two lists is missing. -/
  | unlisted {list : Option (List Char)} (hgrouped : ¬HasNoRun (fun _ => IsGrouped) query)
      (h : list = none ∨ HasNoRun (fun _ => IsListed) query) : IsGroupingReport query list []

/-- GROUP and BY are two keywords side by side. -/
theorem isGrouped_iff_beginsPair {word after : List Char} :
    IsGrouped word after ↔ BeginsPair "group" "by" word after := by
  constructor
  · rintro ⟨blanks, next, behind, heq, hgroup⟩
    exact ⟨hgroup.isGroup, blanks, next, behind, heq, hgroup.isNext, hgroup.isBy⟩
  · rintro ⟨hgroup, blanks, next, behind, heq, hnext, hby⟩
    exact ⟨blanks, next, behind, heq, hgroup, hnext, hby⟩

/-- A GROUP BY in front of white space is a GROUP BY. -/
theorem IsListed.isGrouped {word after : List Char} (h : IsListed word after) :
    IsGrouped word after := by
  obtain ⟨blanks, next, behind, heq, hgroup, -⟩ := h
  exact ⟨blanks, next, behind, heq, hgroup⟩

theorem not_hasNoRun_of_isListed {query front word after : List Char}
    (h : IsFirstRun (fun _ => IsListed) query front word after) :
    ¬HasNoRun (fun _ => IsGrouped) query := fun hnone =>
  hnone front word after h.eq_append h.isRun h.holds.isGrouped

/-! ## What is read off words -/

section Words

variable {before gap : List Char} {w : Word} {ws : List Word}

/-- Whether BY is the adjacent next word of GROUP. -/
def groups (w : Word) (ws : List Word) : Bool :=
  ws.head?.any fun v => w.is "group" && w.after.all isBlank && v.is "by"

/-- Whether white space follows this BY as well. -/
def groupsList (w : Word) (ws : List Word) : Bool :=
  ws.head?.any fun v => w.is "group" && w.after.all isBlank && v.is "by" && v.beforeBlank

/-- Whether the word is an aggregate in front of a parenthesis. -/
def calls (w : Word) (_ : List Word) : Bool :=
  w.isOneOf aggregates && (trimStart w.after).head? == some '('

theorem isGrouped_iff (h : Word.Follow before gap (w :: ws)) :
    IsGrouped w.text (w.after ++ Word.textOf ws) ↔ groups w ws = true :=
  isGrouped_iff_beginsPair.trans (beginsPair_iff h)

theorem isListed_iff (h : Word.Follow before gap (w :: ws)) :
    IsListed w.text (w.after ++ Word.textOf ws) ↔ groupsList w ws = true := by
  constructor
  · rintro ⟨blanks, next, behind, heq, hgroup, hblank⟩
    obtain ⟨v, vs, rfl, rfl, rfl, rfl⟩ := h.exists_of_isNext heq hgroup.isNext
    have hgroups := (isGrouped_iff h).1 ⟨_, _, _, heq, hgroup⟩
    rw [groupsList, List.head?_cons, Option.any_some, Bool.and_eq_true]
    exact ⟨hgroups, h.next.beforeBlank_iff.2 hblank⟩
  · cases ws with
    | nil => nofun
    | cons v vs =>
      rw [groupsList, List.head?_cons, Option.any_some, Bool.and_eq_true]
      rintro ⟨hgroups, hblank⟩
      obtain ⟨blanks, next, behind, heq, hgroup⟩ := (isGrouped_iff h).2 hgroups
      obtain ⟨v', vs', hws, rfl, rfl, rfl⟩ := h.exists_of_isNext heq hgroup.isNext
      obtain ⟨rfl, rfl⟩ := List.cons.inj hws
      exact ⟨_, _, _, heq, hgroup, h.next.beforeBlank_iff.1 hblank⟩

theorem isCall_iff (h : Word.Follow before gap (w :: ws)) :
    IsCall w.text (w.after ++ Word.textOf ws) ↔ calls w ws = true := by
  rw [IsCall, calls, Bool.and_eq_true, isOneOf_iff, beq_iff_eq]
  refine and_congr_right fun _ => ?_
  constructor
  · rintro ⟨blanks, behind, heq, hblanks⟩
    have hparen : IsGap (blanks ++ ['(']) :=
      List.forall_mem_append.2 ⟨hblanks.isGap, List.forall_mem_singleton.2 (by decide)⟩
    rw [← List.append_assoc] at heq
    obtain ⟨back, hafter, -⟩ := h.next.exists_of_isGap hparen heq
    rw [hafter, List.append_assoc, trimStart_append_of_blank hblanks]
    rfl
  · intro hhead
    obtain ⟨tail, htail⟩ := List.head?_eq_some_iff.1 hhead
    obtain ⟨blanks, hblanks, hafter⟩ := exists_of_trimStart_eq htail
    refine ⟨blanks, tail ++ Word.textOf ws, ?_, hblanks⟩
    rw [hafter, List.append_assoc]
    rfl

/-- The first GROUP BY. -/
theorem isSome_adjacentPair?_group (ws : List Word) :
    (adjacentPair? "group" "by" ws).isSome = (firstWord? groups ws).isSome :=
  isSome_adjacentPair? "group" "by" ws

/-- The list behind the first GROUP BY with white space. -/
theorem groupByList?_eq (ws : List Word) :
    groupByList? ws = (firstWord? groupsList ws).bind fun found =>
      match found.2 with
      | v :: rest => some (textUpTo ["order", "having", "limit"] (trimStart v.after) rest).1
      | [] => none := by
  fun_induction groupByList? ws with
  | case1 w v rest hpair =>
    have hgroups : groupsList w (v :: rest) = true := hpair
    rw [firstWord?, if_pos hgroups]
    rfl
  | case2 w v rest hpair ih =>
    have hgroups : ¬groupsList w (v :: rest) = true := hpair
    rw [firstWord?, if_neg hgroups, ih]
  | case3 ws hshort =>
    cases ws with
    | nil => rfl
    | cons w ws =>
      cases ws with
      | nil => rfl
      | cons v rest => exact absurd rfl (hshort w v rest)

/-- The first aggregate in front of a parenthesis. -/
theorem aggregateSpan?_eq (ws : List Word) :
    aggregateSpan? ws = (firstWord? calls ws).map fun found =>
      ⟨found.1.start, byteSize (found.1.text ++ blankPrefix found.1.after) + 1⟩ := by
  induction ws with
  | nil => rfl
  | cons w ws ih =>
    rw [aggregateSpan?, firstWord?]
    by_cases hcall : calls w ws = true
    · have hboth := hcall
      rw [calls, Bool.and_eq_true, beq_iff_eq] at hboth
      obtain ⟨tail, htail⟩ := List.head?_eq_some_iff.1 hboth.2
      rw [if_pos hcall, hboth.1, htail]
      rfl
    · rw [if_neg hcall, ← ih]
      split
      next tail hone htail => exact absurd (by simp [calls, hone, htail]) hcall
      next => rfl

end Words

/-! ## The words of a query lead to the report -/

theorem cutAtCommas_eq_splitOn (cs : List Char) : cutAtCommas cs = cs.splitOn ',' := by
  induction cs with
  | nil => rfl
  | cons c cs ih =>
    rw [cutAtCommas, ih, List.splitOn_cons_eq_if_modifyHead]
    by_cases hc : c = ','
    · rw [if_pos hc, if_pos (beq_iff_eq.2 hc)]
    · rw [if_neg hc, if_neg (by simpa using hc)]
      cases hpieces : cs.splitOn ',' with
      | nil => exact absurd hpieces (List.splitOn_ne_nil _ _)
      | cons piece pieces => rfl

theorem notSelected_eq (list grouped : List Char) :
    notSelected list grouped =
      (unselected list grouped).map fun e => .groupByNotSelected (String.ofList e) := by
  rw [notSelected, unselected, cutAtCommas_eq_splitOn]
  congr 2
  funext e
  rw [Bool.eq_iff_iff, decide_eq_true_iff, Bool.and_eq_true, Bool.not_eq_true', Bool.not_eq_true',
    List.isEmpty_eq_false_iff, ← Bool.not_eq_true, occursIn_iff]

section Report

variable {query : List Char}

/-- Without a GROUP BY. -/
theorem isGroupingReport_of_ungrouped (hnone : HasNoRun (fun _ => IsGrouped) query)
    (list : Option (List Char)) :
    IsGroupingReport query list (match aggregateSpan? (wordsOf query), list with
      | some span, some l =>
        if (qualifiedPairs (wordsOf l)).isEmpty then [] else [.missingGroupBy span]
      | _, _ => []) := by
  have hcall := firstWord?_wordsOf isCall_iff query
  rw [aggregateSpan?_eq]
  cases hfirst : firstWord? calls (wordsOf query) with
  | none =>
    simp only [hfirst] at hcall
    exact .unsuspicious hnone (Or.inl hcall)
  | some found =>
    obtain ⟨w, ws⟩ := found
    simp only [hfirst] at hcall
    obtain ⟨front, gap, hcall, hfollow⟩ := hcall
    cases list with
    | none => exact .unsuspicious hnone (Or.inr nofun)
    | some l =>
      rw [Option.map_some]
      show IsGroupingReport query (some l) (if (qualifiedPairs (wordsOf l)).isEmpty then [] else
        [.missingGroupBy ⟨w.start, byteSize (w.text ++ blankPrefix w.after) + 1⟩])
      by_cases hpairs : (qualifiedPairs (wordsOf l)).isEmpty = true
      · rw [if_pos hpairs]
        refine .unsuspicious hnone (Or.inr fun l' hl' => ?_)
        obtain rfl := Option.some.inj hl'
        rw [hasDotted_iff_qualifiedPairs, not_not]
        exact List.isEmpty_iff.1 hpairs
      · rw [if_neg hpairs]
        have hdotted : HasDotted l :=
          (hasDotted_iff_qualifiedPairs l).2 fun hnil => hpairs (List.isEmpty_iff.2 hnil)
        have hholds := (isCall_iff hfollow).1 hcall.holds
        rw [calls, Bool.and_eq_true, beq_iff_eq] at hholds
        obtain ⟨tail, htail⟩ := List.head?_eq_some_iff.1 hholds.2
        have hafter := blankPrefix_append_trimStart w.after
        rw [htail] at hafter
        rw [← hafter, List.append_assoc] at hcall
        have hreport := IsGroupingReport.missing hnone hcall (isBlankText_blankPrefix _) hdotted
        have hparen : byteSize ['('] = 1 := rfl
        rw [hfollow.start_eq]
        simpa only [Span.ofParts, byteSize_append, hparen] using hreport

/-- With a GROUP BY. -/
theorem isGroupingReport_of_grouped (hgrouped : ¬HasNoRun (fun _ => IsGrouped) query)
    (list : Option (List Char)) :
    IsGroupingReport query list (match list, groupByList? (wordsOf query) with
      | some l, some grouped => notSelected l grouped
      | _, _ => []) := by
  cases list with
  | none => exact .unlisted hgrouped (Or.inl rfl)
  | some l =>
    have hlisted := firstWord?_wordsOf isListed_iff query
    rw [groupByList?_eq]
    cases hfirst : firstWord? groupsList (wordsOf query) with
    | none =>
      simp only [hfirst] at hlisted
      exact .unlisted hgrouped (Or.inr hlisted)
    | some found =>
      obtain ⟨w, ws⟩ := found
      simp only [hfirst] at hlisted
      obtain ⟨front, gap, hlisted, hfollow⟩ := hlisted
      obtain ⟨blanks, next, behind, heq, hgroup, hblank⟩ := hlisted.holds
      obtain ⟨v, vs, rfl, rfl, rfl, rfl⟩ := hfollow.exists_of_isNext heq hgroup.isNext
      obtain ⟨closer, gap', hsplit, hbody, -⟩ := hfollow.next.exists_isBody
        ["order", "having", "limit"] (hfollow.next.beforeBlank_iff.2 hblank)
      rw [heq, hsplit] at hlisted
      rw [hsplit] at hgroup
      show IsGroupingReport query (some l) (notSelected l (textUpTo _ (trimStart v.after) vs).1)
      rw [notSelected_eq]
      exact .listed hlisted hgroup hbody

/-- What is read off words is what is to be reported. -/
theorem isGroupingReport_groupingFindings (query : List Char) :
    IsGroupingReport query (selectList? query) (groupingFindings query) := by
  have hgrouped := firstWord?_wordsOf isGrouped_iff query
  have hpair := isSome_adjacentPair?_group (wordsOf query)
  rw [groupingFindings]
  cases hfirst : firstWord? groups (wordsOf query) with
  | none =>
    simp only [hfirst] at hgrouped
    rw [hfirst, Option.isSome_none, Option.isSome_eq_false_iff, Option.isNone_iff_eq_none] at hpair
    simp only [hpair]
    exact isGroupingReport_of_ungrouped hgrouped _
  | some found =>
    simp only [hfirst] at hgrouped
    rw [hfirst, Option.isSome_some] at hpair
    obtain ⟨pair, hpair⟩ := Option.isSome_iff_exists.1 hpair
    simp only [hpair]
    obtain ⟨front, gap, hgrouped, -⟩ := hgrouped
    exact isGroupingReport_of_grouped
      (fun hnone => hnone _ _ _ hgrouped.eq_append hgrouped.isRun hgrouped.holds) _

/-! ## The patterns -/

/-- GROUP as the start of a word, white space and BY, and `a` behind it. -/
def groupByThen (a : Pattern) : Pattern :=
  .wordThen ["group"] (.both (.several isBlank) (.both (.anyOf ["by"]) a))

/-- A GROUP BY. -/
def groupByPattern : Pattern := groupByThen .boundary

/-- A GROUP BY, white space, and a part that is kept, up to a closing word or the end. -/
def groupByListPattern : Pattern :=
  groupByThen (.both (.several isBlank) (.upTo ["order", "having", "limit"]))

/-- An aggregate with its parenthesis, which is kept. -/
def callPattern : Pattern :=
  .group (.wordThen aggregates (.both (.many isBlank) (.one (· == '('))))

/-- The report that the patterns lead to. -/
def patternReport (query : List Char) (list : Option (List Char)) : List Finding :=
  if (groupByPattern.find? [] query).isSome then
    match list, (groupByListPattern.find? [] query).bind fun y => y.kept.head? with
    | some l, some grouped =>
      (unselected l grouped.text).map fun e => .groupByNotSelected (String.ofList e)
    | _, _ => []
  else
    match list, (callPattern.find? [] query).bind fun y => y.kept.head? with
    | some l, some call =>
      if (qualifiedName.find? [] l).isSome then [.missingGroupBy call.span] else []
    | _, _ => []

section Pattern

variable {before rest front word after blanks behind : List Char} {a : Pattern} {y : Place}

theorem run_groupByThen_eq_some (ha : Pattern.Stops (a.run some)) :
    (groupByThen a).run some ⟨before, rest, []⟩ = some y ↔
      ∃ word blanks next behind, rest = word ++ (blanks ++ (next ++ behind)) ∧
        IsRun before word (blanks ++ (next ++ behind)) ∧ IsGroupBy word blanks next behind ∧
          a.run some ⟨before ++ word ++ blanks ++ next, behind, []⟩ = some y := by
  have hwords : ∀ s ∈ ["group", "by"], IsWordText s.toList := isWordText_of_all (by decide)
  have hpair : groupByThen a = pairThen "group" "by" a := rfl
  rw [hpair, run_pairThen_eq_some (hwords _ (by simp)) (hwords _ (by simp)) ha]
  constructor
  · rintro ⟨word, blanks, next, behind, rfl, hrun, hgroup, hnext, hby, h⟩
    exact ⟨word, blanks, next, behind, rfl, hrun, ⟨hgroup, hnext.of_before _, hby⟩, h⟩
  · rintro ⟨word, blanks, next, behind, rfl, hrun, hgroup, h⟩
    exact ⟨word, blanks, next, behind, rfl, hrun, hgroup.isGroup, hgroup.isNext.of_before _,
      hgroup.isBy, h⟩

theorem isGrouped_of_run (h : groupByPattern.run some ⟨before, rest, []⟩ = some y) :
    ∃ word after, rest = word ++ after ∧ IsRun before word after ∧ IsGrouped word after := by
  obtain ⟨word, blanks, next, behind, rfl, hrun, hgroup, -⟩ :=
    (run_groupByThen_eq_some Pattern.stops_boundary).1 h
  exact ⟨word, _, rfl, hrun, blanks, next, behind, rfl, hgroup⟩

/-- The pattern is found where a GROUP BY begins with some word. -/
theorem isSome_find?_groupByPattern (query : List Char) :
    (groupByPattern.find? [] query).isSome = true ↔ ¬HasNoRun (fun _ => IsGrouped) query := by
  refine Pattern.isSome_find?_iff isGrouped_of_run fun {front word after} hrun hgrouped => ?_
  obtain ⟨blanks, next, behind, rfl, hgroup⟩ := hgrouped
  have hnext : IsNext (front ++ word) blanks next behind := hgroup.isNext.of_before _
  have hmatch : groupByPattern.run some ⟨front, word ++ (blanks ++ (next ++ behind)), []⟩ =
      some ⟨front ++ word ++ blanks ++ next, behind, []⟩ := by
    refine (run_groupByThen_eq_some Pattern.stops_boundary).2
      ⟨word, blanks, next, behind, rfl, hrun, hgroup, ?_⟩
    rw [Pattern.run_boundary_eq_some, Pattern.isBoundary_back hnext.isRun.isWordText]
    exact ⟨hnext.isRun.after, rfl⟩
  exact Option.isSome_of_eq_some hmatch

theorem isListed_of_run (h : groupByListPattern.run some ⟨before, rest, []⟩ = some y) :
    ∃ word after, rest = word ++ after ∧ IsRun before word after ∧ IsListed word after := by
  obtain ⟨word, blanks, next, behind, rfl, hrun, hgroup, h⟩ :=
    (run_groupByThen_eq_some Pattern.stops_several_isBlank).1 h
  obtain ⟨gap, behind, rfl, hne, hgap, -⟩ := Pattern.exists_of_run_several h
  exact ⟨word, _, rfl, hrun, blanks, next, _, rfl, hgroup, exists_isBlank_head? hne hgap⟩

/-- The pattern keeps what stands behind the GROUP BY. -/
theorem find?_groupByListPattern {next gap grouped closer : List Char}
    (hfirst : IsFirstRun (fun _ => IsListed) query front word
      (blanks ++ (next ++ (gap ++ (grouped ++ (closer ++ after))))))
    (hgroup : IsGroupBy word blanks next (gap ++ (grouped ++ (closer ++ after))))
    (hbody : IsBody ["order", "having", "limit"] gap grouped closer after) :
    (groupByListPattern.find? [] query).bind (fun y => y.kept.head?) =
      some ⟨front ++ word ++ blanks ++ next ++ gap, grouped⟩ := by
  have hrun := (run_groupByThen_eq_some Pattern.stops_several_isBlank).2
    ⟨word, blanks, next, _, rfl, hfirst.isRun, hgroup,
      Pattern.run_body (isWordText_of_all (by decide)) hbody⟩
  rw [Pattern.find?_of_isFirstRun isListed_of_run hfirst hrun]
  rfl

theorem isCall_of_run (h : callPattern.run some ⟨before, rest, []⟩ = some y) :
    ∃ word after, rest = word ++ after ∧ IsRun before word after ∧ IsCall word after := by
  rw [callPattern, Pattern.run_group, Pattern.run_wordThen_eq_some (isWordText_of_all (by decide))
    (Pattern.stops_many_isBlank (Pattern.stops_one (by simp; decide)))] at h
  obtain ⟨word, after, rfl, hrun, hword, h⟩ := h
  obtain ⟨blanks, behind, rfl, hblanks, h⟩ := Pattern.exists_of_run_many h
  obtain ⟨c, behind, rfl, hc, -⟩ := Pattern.exists_of_run_one h
  obtain rfl := beq_iff_eq.1 hc
  exact ⟨word, _, rfl, hrun, hword, blanks, behind, rfl, hblanks⟩

/-- The pattern keeps the aggregate with its parenthesis. -/
theorem find?_callPattern
    (hcall : IsFirstRun (fun _ => IsCall) query front word (blanks ++ (['('] ++ behind)))
    (hblanks : IsBlankText blanks) :
    (callPattern.find? [] query).bind (fun y => y.kept.head?) =
      some ⟨front, word ++ blanks ++ ['(']⟩ := by
  have hparen : ∀ c ∈ (['('] ++ behind).head?, isBlank c = false := by
    rintro c ⟨⟩
    decide
  have hrun : callPattern.run some ⟨front, word ++ (blanks ++ (['('] ++ behind)), []⟩ =
      some ⟨front ++ word ++ blanks ++ ['('], behind, [⟨front, word ++ blanks ++ ['(']⟩]⟩ := by
    rw [callPattern, Pattern.run_group, Pattern.run_wordThen_eq_some
      (isWordText_of_all (by decide))
      (Pattern.stops_many_isBlank (Pattern.stops_one (by simp; decide)))]
    refine ⟨word, _, rfl, hcall.isRun, hcall.holds.1, ?_⟩
    refine Pattern.run_many_of_head? hblanks hparen ?_
    rw [List.singleton_append, Pattern.run_one_cons rfl]
    simp [Place.keep]
  rw [Pattern.find?_of_isFirstRun isCall_of_run hcall hrun]
  rfl

end Pattern

/-- The patterns lead to what is to be reported. -/
theorem patternReport_eq {list : Option (List Char)} {found : List Finding}
    (h : IsGroupingReport query list found) : patternReport query list = found := by
  unfold patternReport
  cases h with
  | missing hnone hcall hblanks hlist =>
    rw [if_neg fun h => (isSome_find?_groupByPattern query).1 h hnone,
      find?_callPattern hcall hblanks]
    exact if_pos ((isSome_find?_qualifiedName _).2 hlist)
  | @unsuspicious list hnone h =>
    rw [if_neg fun h => (isSome_find?_groupByPattern query).1 h hnone]
    rcases h with h | h
    · rw [Pattern.find?_of_hasNoRun isCall_of_run h]
      cases list <;> rfl
    · cases list with
      | none => rfl
      | some l =>
        cases (callPattern.find? [] query).bind fun y => y.kept.head? with
        | none => rfl
        | some call => exact if_neg fun hsome => h l rfl ((isSome_find?_qualifiedName l).1 hsome)
  | listed hfirst hgroup hbody =>
    rw [if_pos ((isSome_find?_groupByPattern query).2 (not_hasNoRun_of_isListed hfirst)),
      find?_groupByListPattern hfirst hgroup hbody]
  | @unlisted list hgrouped h =>
    rw [if_pos ((isSome_find?_groupByPattern query).2 hgrouped)]
    rcases h with rfl | h
    · rfl
    · rw [Pattern.find?_of_hasNoRun isListed_of_run h]
      cases list <;> rfl

end Report

/-! ## What is reported -/

theorem kind_of_isGroupingReport {query : List Char} {list : Option (List Char)}
    {found : List Finding} (h : IsGroupingReport query list found) :
    ∀ f ∈ found, f.kind = .missingGroupBy ∨ f.kind = .groupByNotSelected := by
  cases h with
  | missing => exact List.forall_mem_singleton.2 (Or.inl rfl)
  | unsuspicious => exact List.forall_mem_nil _
  | listed =>
    intro f hf
    obtain ⟨e, -, rfl⟩ := List.mem_map.1 hf
    exact Or.inr rfl
  | unlisted => exact List.forall_mem_nil _

/-- There is one report about the grouping of the trimmed query.  It is all that the pass finds and
what the patterns lead to, and the complaints about grouping are made of it. -/
theorem check_grouping (query : String) :
    ∃ found : List Finding,
      (∀ found', IsGroupingReport (trim query.toList) (selectList? (trim query.toList)) found' ↔
        found' = found) ∧
      groupingFindings (trim query.toList) = found ∧
      patternReport (trim query.toList) (selectList? (trim query.toList)) = found ∧
      ∀ schema : Option Model,
        (check schema query).filter
            (fun d => d.kind = .missingGroupBy ∨ d.kind = .groupByNotSelected) =
          found.map fun f => f.diagnostic.shifted (byteSize (blankPrefix query.toList)) := by
  have hreport := isGroupingReport_groupingFindings (trim query.toList)
  refine ⟨_, fun found' => ⟨fun h => ?_, fun h => h ▸ hreport⟩, rfl, patternReport_eq hreport,
    fun schema => ?_⟩
  · exact (patternReport_eq h).symm.trans (patternReport_eq hreport)
  · have hkeep : ∀ k : DiagnosticKind,
        decide (k = .missingGroupBy ∨ k = .groupByNotSelected) = true →
          k.code ∈ letters groupingShape := by
      intro k hk
      rcases of_decide_eq_true hk with rfl | rfl
      all_goals decide
    have hall := List.filter_eq_self.2 fun f hf =>
      decide_eq_true (kind_of_isGroupingReport hreport f hf)
    rw [filter_check schema fun k => k = .missingGroupBy ∨ k = .groupByNotSelected,
      filter_findings_grouping hkeep, hall]
    rfl

/-- A GROUP BY without a list is a GROUP BY. -/
example : groupingFindings "SELECT a.b, COUNT(*) FROM a GROUP BY".toList = [] := by decide +kernel

end QueryLint.Query
