import QueryLint.Proofs.Query.ColumnNames
import QueryLint.Proofs.Text.KeywordPatterns

/-!
# Conditions

A condition stands behind WHERE or ON and white space, and it goes up to GROUP, ORDER or LIMIT or
to the end of the query.  It is read as a whole.  So a WHERE or ON within a condition does not start
another one, and how many conditions there are depends on where each of them is closed.
`IsCondition` says what a condition is, and a scan of the query tells which conditions there are.

A condition is unqualified if it compares something, but has no column with its table.  That can be
told from a condition as a text; the word in front of a comparison sign need not be read as a whole.

* `IsCondition`, `ComparesUnqualified`: conditions, and those that are complained about.
* `reads_conditionPattern`: the pattern finds the conditions of the scan.
* `compares_iff_any`: comparisons are found among the words of a condition.
* `check_unqualifiedJoinColumn`: when there is a complaint.
-/

namespace QueryLint.Query

open Text
open Schema (Model)

/-! ## Conditions of a query -/

/-- The words that close a condition. -/
def conditionClosers : List String := ["group", "order", "limit"]

/-- WHERE or ON, and a body behind it, which is the condition. -/
inductive IsCondition : List Char → List Char → List Char → Part → Prop
  | mk {before keyword blanks body closer after : List Char}
      (hkeyword : IsOneOf ["where", "on"] keyword)
      (hrun : IsRun before keyword (blanks ++ (body ++ (closer ++ after))))
      (hbody : IsBody conditionClosers blanks body closer after) :
      IsCondition before (keyword ++ blanks ++ body ++ closer) after
        ⟨before ++ keyword ++ blanks, body⟩

/-- The signs that a comparison sign begins with. -/
def comparisonSigns : List (List Char) := [['='], ['!', '='], ['<'], ['>']]

/-- There is a word character in the text, and behind it, with nothing but white space in between, a
comparison sign. -/
def Compares (text : List Char) : Prop :=
  ∃ front c blanks sign behind, text = front ++ (c :: (blanks ++ (sign ++ behind))) ∧
    isWordChar c = true ∧ IsBlankText blanks ∧ sign ∈ comparisonSigns

/-- The text compares something, but no column with its table is in it. -/
def ComparesUnqualified (text : List Char) : Prop := ¬HasDotted text ∧ Compares text

/-- One of the words of the text is this keyword. -/
def HasKeyword (keyword : String) (text : List Char) : Prop :=
  ¬HasNoRun (fun _ word _ => IsOneOf [keyword] word) text

/-- White space behind a WHERE or ON is all that a condition needs. -/
theorem canTake_isCondition {before keyword rest : List Char} (hrun : IsRun before keyword rest)
    (hkeyword : IsOneOf ["where", "on"] keyword) (hblank : ∃ c ∈ rest.head?, isBlank c = true) :
    Taking.CanTake IsCondition before (keyword ++ rest) := by
  obtain ⟨blanks, body, closer, after, rfl, hbody⟩ := exists_isBody conditionClosers hblank
  exact ⟨_, after, _, by simp only [List.append_assoc], .mk hkeyword hrun hbody⟩

theorem exists_of_isCondition {before taken after : List Char} {body : Part}
    (h : IsCondition before taken after body) :
    ∃ keyword rest, taken ++ after = keyword ++ rest ∧ IsRun before keyword rest ∧
      IsOneOf ["where", "on"] keyword ∧ ∃ c ∈ rest.head?, isBlank c = true := by
  cases h with
  | mk hkeyword hrun hbody =>
    exact ⟨_, _, by simp only [List.append_assoc], hrun, hkeyword,
      exists_isBlank_head? hbody.ne_nil hbody.isBlankText⟩

/-! ## The words of a query -/

section Words

variable {before gap : List Char} {w : Word} {ws : List Word}

/-- With a word a condition starts if it is WHERE or ON in front of white space. -/
theorem canTake_isCondition_iff (h : Word.Follow before gap (w :: ws)) :
    Taking.CanTake IsCondition (before ++ gap) (w.text ++ (w.after ++ Word.textOf ws)) ↔
      (w.isOneOf ["where", "on"] && w.beforeBlank) = true := by
  rw [Bool.and_eq_true, isOneOf_iff, h.beforeBlank_iff]
  constructor
  · rintro ⟨taken, after, body, heq, hcondition⟩
    obtain ⟨keyword, rest, hsplit, hrun, hkeyword, hblank⟩ := exists_of_isCondition hcondition
    rw [hsplit] at heq
    obtain ⟨rfl, rfl⟩ := h.isRun.eq_of_append_eq hrun heq
    exact ⟨hkeyword, hblank⟩
  · rintro ⟨hkeyword, hblank⟩
    exact canTake_isCondition h.isRun hkeyword hblank

/-- The condition that is read off words, and the words behind it. -/
theorem exists_isCondition (h : Word.Follow before gap (w :: ws))
    (hw : (w.isOneOf ["where", "on"] && w.beforeBlank) = true) :
    ∃ front taken gap',
      IsCondition (before ++ gap) taken
        (gap' ++ Word.textOf (textUpTo conditionClosers (trimStart w.after) ws).2)
        ⟨front, (textUpTo conditionClosers (trimStart w.after) ws).1⟩ ∧
      w.text ++ (w.after ++ Word.textOf ws) =
        taken ++ (gap' ++ Word.textOf (textUpTo conditionClosers (trimStart w.after) ws).2) ∧
      Word.Follow (before ++ gap ++ taken) gap'
        (textUpTo conditionClosers (trimStart w.after) ws).2 := by
  rw [Bool.and_eq_true, isOneOf_iff] at hw
  obtain ⟨closer, gap', heq, hbody, hfollow⟩ := h.exists_isBody conditionClosers hw.2
  have hrun := h.isRun
  rw [heq] at hrun ⊢
  refine ⟨_, _, gap', .mk hw.1 hrun hbody, by simp only [List.append_assoc], ?_⟩
  simpa only [List.append_assoc] using hfollow

/-- The words of a query are gone through in the same way as the query. -/
theorem exists_scan_isCondition (h : Word.Follow before gap ws) :
    ∃ bodies, Scan IsCondition before (gap ++ Word.textOf ws) bodies ∧
      conditionBodies ws = bodies.map Part.text := by
  fun_induction conditionBodies ws generalizing before gap with
  | case1 => exact ⟨[], h.scan_nil, rfl⟩
  | case2 w ws hw _ ih =>
    obtain ⟨front, taken, gap', hcondition, heq, hfollow⟩ := exists_isCondition h hw
    obtain ⟨bodies, hscan, hbodies⟩ := ih hfollow
    exact ⟨⟨front, _⟩ :: bodies, h.scan_take heq hcondition hscan, by rw [hbodies]; rfl⟩
  | case3 w ws hw ih =>
    obtain ⟨bodies, hscan, hbodies⟩ := ih h.next
    exact ⟨bodies, h.scan_pass (mt (canTake_isCondition_iff h).1 hw) hscan, hbodies⟩

end Words

/-! ## Comparisons -/

/-- A comparison sign stands behind white space. -/
def BeginsComparison (text : List Char) : Prop :=
  ∃ blanks sign behind, text = blanks ++ (sign ++ behind) ∧ IsBlankText blanks ∧
    sign ∈ comparisonSigns

theorem isGap_of_mem_comparisonSigns {sign : List Char} (h : sign ∈ comparisonSigns) :
    IsGap sign := by
  have hall : ∀ sign ∈ comparisonSigns, sign.all (!isWordChar ·) = true := by decide
  exact fun c hc => by simpa using List.all_eq_true.1 (hall sign h) c hc

theorem startsComparison_iff {text : List Char} :
    startsComparison text = true ↔
      ∃ sign behind, text = sign ++ behind ∧ sign ∈ comparisonSigns := by
  constructor
  · intro h
    rw [startsComparison.eq_def] at h
    split at h
    next cs => exact ⟨['='], cs, rfl, by decide⟩
    next cs => exact ⟨['<'], cs, rfl, by decide⟩
    next cs => exact ⟨['>'], cs, rfl, by decide⟩
    next cs => exact ⟨['!', '='], cs, rfl, by decide⟩
    next => cases h
  · rintro ⟨sign, behind, rfl, hsign⟩
    simp only [comparisonSigns, List.mem_cons, List.not_mem_nil, or_false] at hsign
    rcases hsign with rfl | rfl | rfl | rfl <;> rfl

theorem isWordChar_head?_blanks_append {blanks sign : List Char} (hblanks : IsBlankText blanks)
    (hsign : sign ∈ comparisonSigns) (behind : List Char) :
    ∀ c ∈ (blanks ++ (sign ++ behind)).head?, isWordChar c = false := by
  have hne : ∀ sign ∈ comparisonSigns, sign ≠ [] := by decide
  have hgap : IsGap (blanks ++ sign) :=
    List.forall_mem_append.2 ⟨hblanks.isGap, isGap_of_mem_comparisonSigns hsign⟩
  rw [← List.append_assoc,
    List.head?_append_of_ne_nil _ (List.append_ne_nil_of_right_ne_nil _ (hne sign hsign))]
  exact fun c hc => hgap c (List.mem_of_mem_head? hc)

/-- White space does not reach into a comparison sign. -/
theorem trimStart_append_sign {blanks sign : List Char} (hblanks : IsBlankText blanks)
    (hsign : sign ∈ comparisonSigns) (behind : List Char) :
    trimStart (blanks ++ (sign ++ behind)) = sign ++ behind := by
  rw [trimStart_append_of_blank hblanks]
  simp only [comparisonSigns, List.mem_cons, List.not_mem_nil, or_false] at hsign
  rcases hsign with rfl | rfl | rfl | rfl <;> rfl

/-- A comparison sign is in no word, so it stands in the gap behind a word. -/
theorem beginsComparison_iff {before gap : List Char} {w : Word} {ws : List Word}
    (h : Word.Follow before gap (w :: ws)) :
    BeginsComparison (w.after ++ Word.textOf ws) ↔ startsComparison (trimStart w.after) = true := by
  rw [startsComparison_iff]
  constructor
  · rintro ⟨blanks, sign, behind, heq, hblanks, hsign⟩
    have hgap : IsGap (blanks ++ sign) :=
      List.forall_mem_append.2 ⟨hblanks.isGap, isGap_of_mem_comparisonSigns hsign⟩
    rw [← List.append_assoc] at heq
    obtain ⟨back, hafter, -⟩ := h.next.exists_of_isGap hgap heq
    rw [List.append_assoc] at hafter
    exact ⟨sign, back, by rw [hafter, trimStart_append_sign hblanks hsign], hsign⟩
  · rintro ⟨sign, tail, htail, hsign⟩
    obtain ⟨blanks, hblanks, hafter⟩ := exists_of_trimStart_eq htail
    exact ⟨blanks, sign, tail ++ Word.textOf ws, by rw [hafter]; simp only [List.append_assoc],
      hblanks, hsign⟩

/-- The word character in front of a comparison is the last one of its word. -/
theorem compares_iff {text : List Char} :
    Compares text ↔ ¬HasNoRun (fun _ _ after => BeginsComparison after) text := by
  constructor
  · rintro ⟨front, c, blanks, sign, behind, rfl, hc, hblanks, hsign⟩ hnone
    obtain ⟨lead, word, hlead, hrun⟩ := exists_isRun_concat front hc
      (isWordChar_head?_blanks_append hblanks hsign behind)
    refine hnone lead word _ ?_ hrun ⟨blanks, sign, behind, rfl, hblanks, hsign⟩
    rw [List.append_cons, hlead, List.append_assoc]
  · intro h
    obtain ⟨front, word, after, rfl, hrun, ⟨blanks, sign, behind, rfl, hblanks, hsign⟩, -⟩ :=
      exists_isFirstRun h
    obtain ⟨chars, c, rfl⟩ := (List.eq_nil_or_concat' word).resolve_left hrun.isWordText.ne_nil
    refine ⟨front ++ chars, c, blanks, sign, behind, ?_,
      hrun.isWordText.isWordChar c (by simp), hblanks, hsign⟩
    simp only [List.append_assoc, List.singleton_append]

/-- What is told from the words of a condition is told from its text. -/
theorem isUnqualified_iff {body : List Char} :
    isUnqualified body = true ↔ ComparesUnqualified body := by
  rw [isUnqualified, Bool.and_eq_true, List.isEmpty_iff,
    any_wordsOf_iff (Q := fun _ after => BeginsComparison after) beginsComparison_iff,
    ← compares_iff, ComparesUnqualified, hasDotted_iff_qualifiedPairs, not_not]

theorem any_is_iff {keyword : String} {query : List Char} :
    (wordsOf query).any (·.is keyword) = true ↔ HasKeyword keyword query :=
  any_wordsOf_iff (fun _ => is_iff_isOneOf.symm) query

/-! ## The patterns -/

/-- WHERE or ON, white space, and a condition that is kept. -/
def conditionPattern : Pattern :=
  .wordThen ["where", "on"] (.both (.several isBlank) (.upTo conditionClosers))

/-- Word characters, white space, and a comparison sign. -/
def comparisonPattern : Pattern :=
  .both (.several isWordChar) (.both (.many isBlank)
    (.anyLiteral (["=", "!=", "<>", "<=", ">=", "<", ">"].map String.toList)))

/-- A JOIN. -/
def joinPattern : Pattern := .wordThen ["join"] .boundary

section Pattern

variable {before rest taken after : List Char} {body : Part} {y : Place}

theorem run_conditionPattern (h : IsCondition before taken after body) :
    conditionPattern.run some ⟨before, taken ++ after, []⟩ =
      some ⟨before ++ taken, after, [body]⟩ := by
  cases h with
  | @mk keyword blanks body closer after hkeyword hrun hbody =>
    have hsplit : keyword ++ blanks ++ body ++ closer ++ after =
        keyword ++ (blanks ++ (body ++ (closer ++ after))) := by
      simp only [List.append_assoc]
    rw [hsplit, conditionPattern, Pattern.run_wordThen_eq_some (isWordText_of_all (by decide))
      Pattern.stops_several_isBlank]
    refine ⟨keyword, _, rfl, hrun, hkeyword, ?_⟩
    rw [Pattern.run_body (isWordText_of_all (by decide)) hbody]
    simp only [List.append_assoc, List.nil_append]

/-- The pattern matches only where a condition can be taken. -/
theorem canTake_of_run_conditionPattern
    (h : conditionPattern.run some ⟨before, rest, []⟩ = some y) :
    (∃ word after, rest = word ++ after ∧ IsRun before word after) ∧
      Taking.CanTake IsCondition before rest := by
  obtain ⟨word, after, rfl, hrun, hword, h⟩ := (Pattern.run_wordThen_eq_some
    (isWordText_of_all (by decide)) Pattern.stops_several_isBlank).1 h
  obtain ⟨blanks, behind, rfl, hne, hblanks, -⟩ := Pattern.exists_of_run_several h
  exact ⟨⟨word, _, rfl, hrun⟩,
    canTake_isCondition hrun hword (exists_isBlank_head? hne hblanks)⟩

/-- The pattern finds the conditions of the scan. -/
theorem reads_conditionPattern : conditionPattern.Reads IsCondition fun body => [body] :=
  Pattern.reads_of_run run_conditionPattern canTake_of_run_conditionPattern

/-- The longer signs begin with shorter ones. -/
theorem exists_mem_comparisonSigns_iff {text : List Char} :
    (∃ sign ∈ ["=", "!=", "<>", "<=", ">=", "<", ">"].map String.toList, ∃ behind,
      text = sign ++ behind) ↔ ∃ sign ∈ comparisonSigns, ∃ behind, text = sign ++ behind := by
  constructor
  · rintro ⟨sign, hsign, behind, rfl⟩
    have hprefix : ∀ sign ∈ ["=", "!=", "<>", "<=", ">=", "<", ">"].map String.toList,
        ∃ short ∈ comparisonSigns, short <+: sign := by decide
    obtain ⟨short, hshort, tail, rfl⟩ := hprefix sign hsign
    exact ⟨short, hshort, tail ++ behind, List.append_assoc ..⟩
  · rintro ⟨sign, hsign, h⟩
    have hmem : ∀ sign ∈ comparisonSigns,
        sign ∈ ["=", "!=", "<>", "<=", ">=", "<", ">"].map String.toList := by decide
    exact ⟨sign, hmem sign hsign, h⟩

theorem isSome_run_signs :
    ((Pattern.anyLiteral (["=", "!=", "<>", "<=", ">=", "<", ">"].map String.toList)).run some
      ⟨before, rest, []⟩).isSome = true ↔ ∃ sign ∈ comparisonSigns, ∃ behind,
        rest = sign ++ behind := by
  rw [Pattern.isSome_run_anyLiteral, ← exists_mem_comparisonSigns_iff]
  simp

/-- The pattern is found where something is compared. -/
theorem isSome_find?_comparisonPattern (text : List Char) :
    (comparisonPattern.find? [] text).isSome = true ↔ Compares text := by
  constructor
  · intro h
    obtain ⟨y, hy⟩ := Option.isSome_iff_exists.1 h
    obtain ⟨front, rest, rfl, -, hrun⟩ := Pattern.exists_of_run_few hy
    obtain ⟨word, rest, rfl, hne, hword, hrun⟩ := Pattern.exists_of_run_several hrun
    obtain ⟨blanks, rest, rfl, hblanks, hrun⟩ := Pattern.exists_of_run_many hrun
    obtain ⟨sign, hsign, behind, rfl⟩ := isSome_run_signs.1 (Option.isSome_of_eq_some hrun)
    obtain ⟨chars, c, rfl⟩ := (List.eq_nil_or_concat' word).resolve_left hne
    refine ⟨front ++ chars, c, blanks, sign, behind, ?_, hword c (by simp), hblanks, hsign⟩
    simp only [List.append_assoc, List.singleton_append]
  · rintro ⟨front, c, blanks, sign, behind, rfl, hc, hblanks, hsign⟩
    refine Pattern.isSome_find? ?_
    rw [comparisonPattern, Pattern.run_both, Pattern.several, Pattern.run_both,
      Pattern.run_one_cons hc, ← List.nil_append (blanks ++ _)]
    refine Pattern.isSome_run_many (List.forall_mem_nil _) (Pattern.isSome_run_many hblanks ?_)
    exact isSome_run_signs.2 ⟨sign, hsign, behind, rfl⟩

/-- The pattern is found where there is a JOIN. -/
theorem isSome_find?_joinPattern (query : List Char) :
    (joinPattern.find? [] query).isSome = true ↔ HasKeyword "join" query := by
  have hkeywords : ∀ s ∈ ["join"], IsWordText s.toList := isWordText_of_all (by decide)
  refine Pattern.isSome_find?_iff (fun h => ?_) fun {front word after} hrun hword => ?_
  · obtain ⟨word, after, rfl, hrun, hword, -⟩ :=
      (Pattern.run_wordThen_boundary_eq_some hkeywords).1 h
    exact ⟨word, after, rfl, hrun, hword⟩
  · have hmatch : joinPattern.run some ⟨front, word ++ after, []⟩ =
        some ⟨front ++ word, after, []⟩ :=
      (Pattern.run_wordThen_boundary_eq_some hkeywords).2 ⟨word, after, rfl, hrun, hword, rfl⟩
    exact Option.isSome_of_eq_some hmatch

end Pattern

/-! ## What is reported -/

/-- The conditions of a query are the outcome of one scan, and what is read off its words. -/
theorem exists_conditions (query : List Char) :
    ∃ bodies : List Part,
      ((∀ bodies', Scan IsCondition [] query bodies' ↔ bodies' = bodies) ∧
        ∀ found, conditionPattern.Finds [] query found ↔ found = bodies.map fun body => [body]) ∧
      conditionBodies (wordsOf query) = bodies.map Part.text := by
  obtain ⟨bodies, hscan, hbodies⟩ := exists_scan_isCondition (Word.follow_wordsOf query)
  rw [← (remain_wordsOf query).text] at hscan
  exact ⟨bodies, reads_conditionPattern.scan_iff_and_finds_iff (fun _ _ h => List.singleton_inj.1 h)
    hscan, hbodies⟩

theorem filter_joinFindings_unqualified (query : List Char) :
    (joinFindings query).filter (fun f => f.kind = .unqualifiedJoinColumn) =
      if (wordsOf query).any (·.is "join") && (conditionBodies (wordsOf query)).any isUnqualified
      then [.unqualifiedJoinColumn] else [] := by
  have hcross : ((crossJoinSpan? (wordsOf query)).map Finding.possibleCrossJoin).toList.filter
      (fun f => f.kind = .unqualifiedJoinColumn) = [] := by
    cases crossJoinSpan? (wordsOf query) <;> rfl
  rw [joinFindings, List.filter_append, hcross, List.nil_append]
  split <;> rfl

/-- Unqualified columns are complained about, once, if there is a JOIN in the trimmed query and one
of its conditions compares something without a column that has its table.  There is one list of
conditions that the scan leads to, and they are what the pattern finds.  The two texts that matter
besides are found by patterns as well. -/
theorem check_unqualifiedJoinColumn (query : String) :
    ∃ bodies : List Part,
      ((∀ bodies', Scan IsCondition [] (trim query.toList) bodies' ↔ bodies' = bodies) ∧
        ∀ found, conditionPattern.Finds [] (trim query.toList) found ↔
          found = bodies.map fun body => [body]) ∧
      ((joinPattern.find? [] (trim query.toList)).isSome = true ↔
        HasKeyword "join" (trim query.toList)) ∧
      (∀ body ∈ bodies, ((qualifiedName.find? [] body.text).isNone = true ∧
        (comparisonPattern.find? [] body.text).isSome = true ↔ ComparesUnqualified body.text)) ∧
      ∀ schema : Option Model,
        (HasKeyword "join" (trim query.toList) ∧ (∃ body ∈ bodies, ComparesUnqualified body.text) →
          (check schema query).filter (·.kind = .unqualifiedJoinColumn) =
            [⟨.unqualifiedJoinColumn, .warning, "Unqualified column in a JOIN query; " ++
              "use table aliases (e.g. u.id) to avoid ambiguity", none, none⟩]) ∧
        (¬(HasKeyword "join" (trim query.toList) ∧ ∃ body ∈ bodies, ComparesUnqualified body.text) →
          (check schema query).filter (·.kind = .unqualifiedJoinColumn) = []) := by
  obtain ⟨bodies, hscan, hbodies⟩ := exists_conditions (trim query.toList)
  refine ⟨bodies, hscan, isSome_find?_joinPattern _, fun body _ => ?_, fun schema => ?_⟩
  · rw [isSome_find?_comparisonPattern, ComparesUnqualified, ← isSome_find?_qualifiedName,
      Option.isNone_iff_eq_none, Option.not_isSome_iff_eq_none]
  · have hcondition : ((wordsOf (trim query.toList)).any (·.is "join") &&
        (conditionBodies (wordsOf (trim query.toList))).any isUnqualified) = true ↔
          HasKeyword "join" (trim query.toList) ∧
            ∃ body ∈ bodies, ComparesUnqualified body.text := by
      rw [Bool.and_eq_true, any_is_iff, hbodies, List.any_map, List.any_eq_true]
      simp only [Function.comp_apply, isUnqualified_iff]
    rw [filter_check_join (by decide), filter_joinFindings_unqualified, ← hcondition]
    refine ⟨fun h => ?_, fun h => ?_⟩
    · rw [if_pos h]
      rfl
    · rw [if_neg h]
      rfl

/-- An ON within a condition does not start another one. -/
example : conditionBodies (wordsOf "a WHERE b = c ON d LIMIT e ON f".toList) =
    ["b = c ON d ".toList, "f".toList] := by decide +kernel

end QueryLint.Query
