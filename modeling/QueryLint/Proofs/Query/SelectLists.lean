import QueryLint.Proofs.Query.Scans
import QueryLint.Proofs.Text.Patterns

/-!
# Where the list behind SELECT begins and ends

The list begins behind the white space after the first SELECT that white space follows, and it
ends in front of the white space before the next FROM that has any.  `IsDelimited` says so about the
text itself, with the cases in which there is no list, or an empty one.

The same list is what a pattern finds (`selectPattern`), and here the choices of the pattern matter.
White space behind SELECT is taken as far as it goes, and only if the list then has no end one
character of it is given back.  That helps only a FROM that directly follows, and so a list can be
empty.

* `IsOpening`, `IsClosing`: the words around a list.
* `IsDelimited`: where a list begins and ends.
* `find?_selectPattern`: what the pattern finds.
* `selectList_isDelimited`: the list that is checked.
-/

namespace QueryLint.Query

open Text

/-! ## Where a list begins and ends -/

/-- The word is SELECT, and white space follows it. -/
def IsOpening (_ word after : List Char) : Prop :=
  word.map foldChar = "select".toList ∧ ∃ c ∈ after.head?, isBlank c = true

/-- The word is FROM, and white space stands in front of it. -/
def IsClosing (before word _ : List Char) : Prop :=
  word.map foldChar = "from".toList ∧ ∃ c ∈ before.getLast?, isBlank c = true

/-- Behind the first SELECT of the query that white space follows, and behind all of this white
space, `blanks`, the text goes on with `rest`. -/
structure IsBegun (query before select blanks rest : List Char) : Prop where
  isFirstRun : IsFirstRun IsOpening query before select (blanks ++ rest)
  isBlankText : IsBlankText blanks
  stops : ∀ c ∈ rest.head?, isBlank c = false

/-- The list in a query, or that there is none. -/
inductive IsDelimited (query : List Char) : Option Part → Prop
  /-- There is a FROM that closes the list, and the list ends before the white space in front. -/
  | closed {before select blanks list gap word after rest : List Char}
      (hbegun : IsBegun query before select blanks rest)
      (hclosed : IsFirstRun IsClosing rest (list ++ gap) word after) (hgap : IsBlankText gap)
      (hlist : ∀ c ∈ list.getLast?, isBlank c = false) :
      IsDelimited query (some ⟨before ++ select ++ blanks, list⟩)
  /-- There is none, but FROM stands where the list should begin, and white space is left. -/
  | empty {before select blanks word after : List Char} {c : Char}
      (hbegun : IsBegun query before select (blanks ++ [c]) (word ++ after)) (hne : blanks ≠ [])
      (hnone : HasNoRun IsClosing (word ++ after)) (hrun : IsRun [] word after)
      (hword : word.map foldChar = "from".toList) :
      IsDelimited query (some ⟨before ++ select ++ blanks, []⟩)
  /-- There is none. -/
  | unclosed {before select blanks rest : List Char}
      (hbegun : IsBegun query before select blanks rest) (hnone : HasNoRun IsClosing rest)
      (hshort : ∀ word after, rest = word ++ after → IsRun [] word after →
        word.map foldChar = "from".toList → blanks.length < 2) : IsDelimited query none
  /-- No SELECT begins a list. -/
  | unopened (hnone : HasNoRun IsOpening query) : IsDelimited query none

/-! ## The list that is checked -/

section Words

variable {gap : List Char} {pos : Nat} {ws : List Word}

theorem isOpening_iff {before : List Char} {w : Word} (hlaid : Word.Laid pos (w :: ws)) :
    IsOpening before w.text (w.after ++ Word.textOf ws) ↔
      (w.is "select" && w.beforeBlank) = true := by
  rw [IsOpening, Bool.and_eq_true, Word.is, spells_iff]
  refine and_congr_right fun _ => ?_
  rw [Word.beforeBlank]
  cases hafter : w.after with
  | cons c cs => simp
  | nil =>
    -- a word that nothing follows is the last one
    cases hlaid with
    | cons _ _ _ apart _ =>
      have hlast : ws = [] := by
        by_contra hne
        exact apart hne hafter
      simp [hlast]

theorem firstSelect?_spec (hgap : IsGap gap) (hlaid : Word.Laid pos ws) :
    match firstSelect? ws with
    | some (w, vs) => (∃ pos', Word.Laid pos' (w :: vs)) ∧
        ∃ before, IsFirstRun IsOpening (gap ++ Word.textOf ws) before w.text
          (w.after ++ Word.textOf vs)
    | none => HasNoRun IsOpening (gap ++ Word.textOf ws) := by
  induction ws generalizing gap pos with
  | nil =>
    rw [firstSelect?, Word.textOf_nil, List.append_nil]
    exact hasNoRun_of_isGap hgap
  | cons w ws ih =>
    have hrun := hlaid.isRun hgap
    have hiff : IsOpening gap w.text (w.after ++ Word.textOf ws) ↔ _ := isOpening_iff hlaid
    rw [firstSelect?, Word.textOf_cons, List.append_assoc]
    by_cases hw : (w.is "select" && w.beforeBlank) = true
    · rw [if_pos hw]
      exact ⟨⟨pos, hlaid⟩, gap, isFirstRun_of_gap hgap hrun (hiff.2 hw)⟩
    · rw [if_neg hw]
      cases hlaid with
      | cons _ _ hafter _ hlater =>
        have hnot := mt hiff.1 hw
        have hlater := ih hafter hlater
        cases hselect : firstSelect? ws with
        | none =>
          simp only [hselect] at hlater
          exact hlater.append hgap hrun hnot fun _ _ _ => Iff.rfl
        | some found =>
          simp only [hselect] at hlater
          obtain ⟨hlaid', before, hfirst⟩ := hlater
          exact ⟨hlaid', _, hfirst.append hgap hrun hnot fun _ _ _ => Iff.rfl⟩

theorem endsBlank_iff {cs : List Char} :
    endsBlank cs = true ↔ ∃ c ∈ cs.getLast?, isBlank c = true := by
  induction cs with
  | nil => simp [endsBlank]
  | cons c cs ih =>
    cases cs with
    | nil => simp [endsBlank]
    | cons d ds => rw [endsBlank, ih, List.getLast?_cons_cons]

theorem isClosing_iff {rest : List Char} {w : Word} :
    IsClosing gap w.text rest ↔ (endsBlank gap && w.is "from") = true := by
  rw [IsClosing, Bool.and_eq_true, Word.is, spells_iff, endsBlank_iff, and_comm]

/-- Only what stands right in front of a word matters to it. -/
theorem isClosing_append_iff {before front word after : List Char} (hne : front ≠ []) :
    IsClosing (before ++ front) word after ↔ IsClosing front word after := by
  rw [IsClosing, IsClosing, List.getLast?_append_of_ne_nil _ hne]

/-- That is no other word. -/
theorem not_isClosing_append {text word after : List Char} (htext : IsWordText text) :
    ¬IsClosing (gap ++ text) word after := by
  rw [isClosing_append_iff htext.ne_nil]
  rintro ⟨-, c, hc, hblank⟩
  rw [isBlank_of_isWordChar (htext.isWordChar c (List.mem_of_getLast? hc))] at hblank
  cases hblank

theorem textBeforeFrom?_spec (hgap : IsGap gap) (hlaid : Word.Laid pos ws) :
    match textBeforeFrom? gap ws with
    | some front => ∃ word after, IsFirstRun IsClosing (gap ++ Word.textOf ws) front word after
    | none => HasNoRun IsClosing (gap ++ Word.textOf ws) := by
  induction ws generalizing gap pos with
  | nil =>
    rw [textBeforeFrom?, Word.textOf_nil, List.append_nil]
    exact hasNoRun_of_isGap hgap
  | cons w ws ih =>
    have hrun := hlaid.isRun hgap
    have hmove (front word after : List Char) :
        IsClosing (gap ++ (w.text ++ front)) word after ↔ IsClosing front word after := by
      rw [← List.append_assoc]
      by_cases hne : front = []
      · rw [hne, List.append_nil]
        exact iff_of_false (not_isClosing_append hrun.isWordText) fun h => nomatch h.2
      · exact isClosing_append_iff hne
    rw [textBeforeFrom?, Word.textOf_cons, List.append_assoc]
    by_cases hw : (endsBlank gap && w.is "from") = true
    · rw [if_pos hw]
      exact ⟨_, _, isFirstRun_of_gap hgap hrun (isClosing_iff.2 hw)⟩
    · rw [if_neg hw]
      cases hlaid with
      | cons _ _ hafter _ hlater =>
        have hnot : ¬IsClosing gap w.text (w.after ++ Word.textOf ws) := mt isClosing_iff.1 hw
        have hlater := ih hafter hlater
        cases hclosing : textBeforeFrom? w.after ws with
        | none =>
          simp only [hclosing] at hlater
          exact hlater.append hgap hrun hnot hmove
        | some front =>
          simp only [hclosing] at hlater
          obtain ⟨word, after, hfirst⟩ := hlater
          have hfirst' := hfirst.append hgap hrun hnot hmove
          rw [← List.append_assoc gap w.text front] at hfirst'
          exact ⟨word, after, hfirst'⟩

theorem isGap_trimStart (hgap : IsGap gap) : IsGap (trimStart gap) :=
  fun c hc => hgap c ((List.dropWhile_suffix isBlank).subset hc)

/-- A word that stands where white space ends is the next word. -/
theorem exists_next?_of_isRun {select : Word} {word after : List Char}
    (hlaid : Word.Laid pos (select :: ws))
    (heq : trimStart select.after ++ Word.textOf ws = word ++ after) (hrun : IsRun [] word after) :
    ∃ v vs, select.next? ws = some (v, vs) ∧ word = v.text := by
  cases hlaid with
  | cons _ _ hafter _ hlater =>
    have htrim := isGap_trimStart hafter
    cases ws with
    | nil =>
      have hnil : trimStart select.after = [] ++ (word ++ after) := by
        rwa [Word.textOf_nil, List.append_nil] at heq
      exact absurd hnil (htrim.ne_append hrun.isWordText)
    | cons v vs =>
      rw [Word.textOf_cons, List.append_assoc] at heq
      obtain ⟨hnil, rfl, -⟩ := IsRun.unique htrim isGap_nil (hlater.isRun htrim) hrun heq
      exact ⟨v, vs, next?_eq_some.2 ⟨rfl, trimStart_eq_nil_iff.1 hnil.symm⟩, rfl⟩

/-- Where the white space behind a SELECT ends, its list begins. -/
theorem isBegun_of_isFirstRun {query before : List Char} {select : Word}
    (hlaid : Word.Laid pos (select :: ws))
    (hfirst : IsFirstRun IsOpening query before select.text (select.after ++ Word.textOf ws)) :
    IsBegun query before select.text (blankPrefix select.after)
      (trimStart select.after ++ Word.textOf ws) where
  isFirstRun := by rwa [← List.append_assoc, blankPrefix_append_trimStart]
  isBlankText := isBlankText_blankPrefix _
  stops := by
    intro c hc
    cases htrim : trimStart select.after with
    | cons d ds =>
      rw [htrim] at hc
      have hhead := List.head?_dropWhile_not isBlank select.after
      rw [← trimStart, htrim] at hhead
      cases hc
      exact hhead
    | nil =>
      rw [htrim, List.nil_append] at hc
      cases ws with
      | nil => cases hc
      | cons v vs =>
        have hword := hlaid.isWordText_of_mem (List.mem_cons_of_mem select List.mem_cons_self)
        rw [Word.textOf_cons, List.append_assoc] at hc
        exact isBlank_head?_append hword c hc

/-- The list of a SELECT that white space and FROM directly follow, if no later FROM closes one. -/
theorem isDelimited_empty {query before : List Char} {select v : Word} {vs : List Word}
    (hlaid : Word.Laid pos (select :: v :: vs))
    (hbegun : IsBegun query before select.text (blankPrefix select.after)
      (trimStart select.after ++ Word.textOf (v :: vs)))
    (hnone : HasNoRun IsClosing (trimStart select.after ++ Word.textOf (v :: vs)))
    (hblank : IsBlankText select.after) (hfrom : v.is "from" = true)
    (hlength : 2 ≤ select.after.length) :
    ∃ found, IsDelimited query (some found) ∧ found.text = [] := by
  have hrun : IsRun (select.after ++ []) v.text (v.after ++ Word.textOf vs) := by
    have hrun := hlaid.isRun_next []
    rwa [List.nil_append, ← List.append_nil select.after] at hrun
  rw [trimStart_eq_nil_iff.2 hblank, List.nil_append, Word.textOf_cons,
    List.append_assoc] at hbegun hnone
  rw [blankPrefix, List.takeWhile_eq_self_iff.2 hblank] at hbegun
  rcases List.eq_nil_or_concat' select.after with hnil | ⟨blanks, c, hconcat⟩
  · rw [hnil] at hlength
    cases hlength
  · rw [hconcat] at hbegun hlength
    have hne : blanks ≠ [] := by
      rintro rfl
      exact Nat.not_succ_le_self 1 hlength
    exact ⟨_, .empty hbegun hne hnone hrun.of_append (spells_iff.1 hfrom), rfl⟩

/-- The list behind a SELECT. -/
theorem exists_isDelimited_of_isBegun {query before : List Char} {select : Word}
    (hlaid : Word.Laid pos (select :: ws))
    (hbegun : IsBegun query before select.text (blankPrefix select.after)
      (trimStart select.after ++ Word.textOf ws)) :
    ∃ found, IsDelimited query found ∧ listBehind? select ws = found.map Part.text := by
  have hclosing : match textBeforeFrom? (trimStart select.after) ws with
      | some front => ∃ word after,
          IsFirstRun IsClosing (trimStart select.after ++ Word.textOf ws) front word after
      | none => HasNoRun IsClosing (trimStart select.after ++ Word.textOf ws) := by
    cases hlaid with
    | cons _ _ hafter _ hlater => exact textBeforeFrom?_spec (isGap_trimStart hafter) hlater
  rw [listBehind?]
  cases htext : textBeforeFrom? (trimStart select.after) ws with
  | some text =>
    simp only [htext] at hclosing ⊢
    obtain ⟨word, after, hclosed⟩ := hclosing
    obtain ⟨gap, hgap, hsplit, hlast⟩ := exists_of_trimEnd text
    rw [hsplit] at hclosed
    exact ⟨_, .closed hbegun hclosed hgap hlast, rfl⟩
  | none =>
    simp only [htext] at hclosing ⊢
    cases hnext : select.next? ws with
    | none =>
      refine ⟨none, .unclosed hbegun hclosing fun word after heq hrun _ => ?_, rfl⟩
      obtain ⟨v, vs, hsome, -⟩ := exists_next?_of_isRun hlaid heq hrun
      rw [hnext] at hsome
      cases hsome
    | some next =>
      obtain ⟨v, vs⟩ := next
      by_cases hv : (v.is "from" && decide (2 ≤ select.after.length)) = true
      · simp only [if_pos hv]
        rw [Bool.and_eq_true, decide_eq_true_iff] at hv
        obtain ⟨rfl, hblank⟩ := next?_eq_some.1 hnext
        obtain ⟨found, hfound, hnil⟩ :=
          isDelimited_empty hlaid hbegun hclosing hblank hv.1 hv.2
        exact ⟨_, hfound, by rw [Option.map_some, hnil]⟩
      · simp only [if_neg hv]
        refine ⟨none, .unclosed hbegun hclosing fun word after heq hrun hword => ?_, rfl⟩
        obtain ⟨v', vs', hsome, rfl⟩ := exists_next?_of_isRun hlaid heq hrun
        rw [hnext] at hsome
        obtain ⟨rfl, -⟩ := Prod.mk.inj (Option.some.inj hsome)
        have hfrom : v.is "from" = true := spells_iff.2 hword
        rw [hfrom, Bool.true_and, decide_eq_true_iff] at hv
        have hle : (blankPrefix select.after).length ≤ select.after.length :=
          (List.takeWhile_prefix isBlank).length_le
        omega

/-- The list is the one that is delimited. -/
theorem exists_isDelimited (query : List Char) :
    ∃ found, IsDelimited query found ∧ selectList? query = found.map Part.text := by
  have hremain := remain_wordsOf query
  have hselect := firstSelect?_spec (Reading.laid_ofChars 0 query).lead hremain.laid
  rw [← hremain.text] at hselect
  rw [selectList?]
  cases hfirst : firstSelect? (wordsOf query) with
  | none =>
    simp only [hfirst] at hselect
    exact ⟨none, .unopened hselect, rfl⟩
  | some found =>
    simp only [hfirst] at hselect
    obtain ⟨⟨pos, hlaid⟩, before, hfirst⟩ := hselect
    exact exists_isDelimited_of_isBegun hlaid (isBegun_of_isFirstRun hlaid hfirst)

end Words

/-! ## The pattern -/

/-- White space and FROM, up to the end of a word. -/
def closerPattern : Pattern :=
  .both (.several isBlank) (.both (.keyword "from".toList) .boundary)

/-- A part that is kept, as short as possible, white space and FROM. -/
def listPattern : Pattern := .both (.group (.few fun _ => true)) closerPattern

/-- SELECT as the start of a word, white space, a part that is kept, white space and FROM. -/
def selectPattern : Pattern :=
  .both .boundary
    (.both (.keyword "select".toList) (.both (.several isBlank) listPattern))

section Pattern

variable {before blanks gap list rest select word after : List Char} {kept : List Part} {y : Place}

theorem run_closerPattern (hne : gap ≠ []) (hgap : IsBlankText gap) (hrun : IsRun [] word after)
    (hword : word.map foldChar = "from".toList) :
    closerPattern.run some ⟨before, gap ++ (word ++ after), kept⟩ =
      some ⟨before ++ gap ++ word, after, kept⟩ := by
  rw [closerPattern, Pattern.run_both]
  refine Pattern.run_several_of_head? hne hgap (isBlank_head?_append hrun.isWordText) ?_
  rw [Pattern.run_both, Pattern.run_keyword_append hword, Pattern.run_boundary_eq_some]
  exact ⟨(Pattern.isBoundary_back hrun.isWordText).2 hrun.after, rfl⟩

theorem exists_of_run_closerPattern (h : closerPattern.run some ⟨before, rest, kept⟩ = some y) :
    ∃ gap word after, rest = gap ++ (word ++ after) ∧ gap ≠ [] ∧ IsBlankText gap ∧
      IsRun gap word after ∧ word.map foldChar = "from".toList := by
  rw [closerPattern, Pattern.run_both] at h
  obtain ⟨gap, rest, rfl, hne, hgap, h⟩ := Pattern.exists_of_run_several h
  rw [Pattern.run_both] at h
  obtain ⟨word, after, rfl, hword, h⟩ := Pattern.exists_of_run_keyword h
  have htext : IsWordText word :=
    Pattern.isWordText_of_map_foldChar hword (Pattern.isWordText_keyword (by decide))
  rw [Pattern.run_boundary_eq_some, Pattern.isBoundary_back htext] at h
  exact ⟨gap, word, after, rfl, hne, hgap, ⟨htext, (IsBlankText.isGap hgap).getLast?, h.1⟩, hword⟩

/-- White space in front of FROM closes a list, whatever stands in front of it. -/
theorem isClosing_append {front : List Char} (hne : gap ≠ []) (hgap : IsBlankText gap)
    (hword : word.map foldChar = "from".toList) : IsClosing (front ++ gap) word after := by
  refine ⟨hword, gap.getLast hne, ?_, hgap _ (List.getLast_mem hne)⟩
  rw [List.getLast?_append_of_ne_nil _ hne]
  exact List.getLast?_eq_some_getLast hne

/-- There is white space between a list and the FROM that closes it. -/
theorem ne_nil_of_isClosing (h : IsClosing (list ++ gap) word after)
    (hlist : ∀ c ∈ list.getLast?, isBlank c = false) : gap ≠ [] := by
  obtain ⟨-, c, hc, hblank⟩ := h
  rintro rfl
  rw [List.append_nil] at hc
  rw [hlist c hc] at hblank
  cases hblank

/-- The part that is kept ends before the white space in front of the first FROM that has any. -/
theorem run_listPattern (hclosed : IsFirstRun IsClosing rest (list ++ gap) word after)
    (hgap : IsBlankText gap) (hlist : ∀ c ∈ list.getLast?, isBlank c = false) :
    listPattern.run some ⟨before, rest, []⟩ =
      some ⟨before ++ list ++ gap ++ word, after, [⟨before, list⟩]⟩ := by
  obtain ⟨rfl, hrun, hclosing, hfirst⟩ := hclosed
  have hne := ne_nil_of_isClosing hclosing hlist
  have hkeep (rest : List Char) :
      Place.keep ⟨before, list ++ gap ++ (word ++ after), []⟩ ⟨before ++ list, rest, []⟩ =
        ⟨before ++ list, rest, [⟨before, list⟩]⟩ := by
    simp [Place.keep]
  rw [listPattern, Pattern.run_both, Pattern.run_group]
  rw [List.append_assoc] at hkeep ⊢
  refine Pattern.run_few_eq_some (fun _ _ => rfl) ?_ fun taken rest heq hlength => ?_
  · rw [hkeep]
    exact run_closerPattern hne hgap hrun.alone hclosing.1
  · rw [Option.eq_none_iff_forall_ne_some]
    intro y hy
    obtain ⟨gap', word', after', rfl, hne', hgap', hrun', hword'⟩ := exists_of_run_closerPattern hy
    have hle := hfirst (taken ++ gap') word' after' (by simpa only [List.append_assoc] using heq)
      (hrun'.append hne') (isClosing_append hne' hgap' hword')
    -- then the end of the list is in the white space that is taken
    rcases List.append_eq_append_iff.1 heq with ⟨part, rfl, -⟩ | ⟨part, rfl, hpart⟩
    · rw [List.length_append] at hlength
      omega
    · have hpos := List.length_pos_iff.2 hne
      have hpart' : part ≠ [] := by
        rintro rfl
        rw [List.append_nil] at hlength
        exact absurd hlength (Nat.lt_irrefl _)
      rcases List.append_eq_append_iff.1 hpart with ⟨back, rfl, -⟩ | ⟨back, rfl, -⟩
      · simp only [List.length_append] at hle
        omega
      · have hlast := hlist (part.getLast hpart') (by
          rw [List.getLast?_append_of_ne_nil _ hpart']
          exact List.getLast?_eq_some_getLast hpart')
        rw [hgap' _ (List.mem_append_left _ (List.getLast_mem hpart'))] at hlast
        cases hlast

theorem exists_of_run_listPattern (h : listPattern.run some ⟨before, rest, []⟩ = some y) :
    ∃ front word after, rest = front ++ (word ++ after) ∧ IsRun front word after ∧
      IsClosing front word after := by
  rw [listPattern, Pattern.run_both, Pattern.run_group] at h
  obtain ⟨taken, rest, rfl, -, h⟩ := Pattern.exists_of_run_few h
  obtain ⟨gap, word, after, rfl, hne, hgap, hrun, hword⟩ := exists_of_run_closerPattern h
  exact ⟨taken ++ gap, word, after, (List.append_assoc _ _ _).symm, hrun.append hne,
    isClosing_append hne hgap hword⟩

theorem run_listPattern_eq_none (h : HasNoRun IsClosing rest) :
    listPattern.run some ⟨before, rest, []⟩ = none := by
  rw [Option.eq_none_iff_forall_ne_some]
  intro y hy
  obtain ⟨front, word, after, heq, hrun, hclosing⟩ := exists_of_run_listPattern hy
  exact h front word after heq hrun hclosing

theorem exists_of_run_selectPattern (h : selectPattern.run some ⟨before, rest, []⟩ = some y) :
    ∃ select blanks behind, rest = select ++ (blanks ++ behind) ∧
      IsRun before select (blanks ++ behind) ∧ IsOpening before select (blanks ++ behind) ∧
        IsBlankText blanks ∧ blanks ≠ [] ∧
          listPattern.run some ⟨before ++ select ++ blanks, behind, []⟩ = some y := by
  rw [selectPattern, Pattern.run_both, Pattern.run_boundary_eq_some, Pattern.run_both] at h
  obtain ⟨hboundary, h⟩ := h
  obtain ⟨select, rest, rfl, hselect, h⟩ := Pattern.exists_of_run_keyword h
  rw [Pattern.run_both] at h
  obtain ⟨blanks, rest, rfl, hne, hblanks, h⟩ := Pattern.exists_of_run_several h
  have htext : IsWordText select :=
    Pattern.isWordText_of_map_foldChar hselect (Pattern.isWordText_keyword (by decide))
  obtain ⟨c, cs, rfl⟩ := List.exists_cons_of_ne_nil hne
  have hc := hblanks c List.mem_cons_self
  refine ⟨select, c :: cs, rest, rfl, ⟨htext, (Pattern.isBoundary_front htext).1 hboundary, ?_⟩,
    ⟨hselect, c, rfl, hc⟩, hblanks, hne, h⟩
  rintro d ⟨⟩
  exact isWordChar_of_isBlank hc

/-- The pattern matches at the first SELECT with white space behind it, or nowhere in front. -/
theorem find?_selectPattern_of_run {query : List Char}
    (hbegun : IsBegun query before select blanks rest)
    (h : ((Pattern.several isBlank).run (listPattern.run some)
      ⟨before ++ select, blanks ++ rest, []⟩) = some y) :
    selectPattern.find? [] query = some y := by
  obtain ⟨rfl, hrun, hopening, hfirst⟩ := hbegun.isFirstRun
  have hskip : selectPattern.find? [] (before ++ (select ++ (blanks ++ rest))) =
      selectPattern.find? ([] ++ before) (select ++ (blanks ++ rest)) := by
    refine Pattern.find?_append fun front rest' heq hlength => ?_
    rw [Option.eq_none_iff_forall_ne_some]
    intro y hy
    obtain ⟨select', blanks', behind, rfl, hrun', hopening', -⟩ := exists_of_run_selectPattern hy
    have hle := hfirst front select' (blanks' ++ behind) heq hrun' hopening'
    omega
  rw [hskip]
  refine Pattern.find?_of_run ?_
  rw [selectPattern, Pattern.run_both, Pattern.run_boundary_eq_some]
  refine ⟨(Pattern.isBoundary_front hrun.isWordText).2 hrun.before, ?_⟩
  rw [Pattern.run_both, Pattern.run_keyword_append hopening.1, Pattern.run_both]
  exact h

/-- A word that stands behind white space stands behind all of it. -/
theorem exists_of_blanks_append {mid : List Char} (hblanks : IsBlankText blanks)
    (hword : IsWordText word) (heq : blanks ++ rest = mid ++ (word ++ after)) :
    ∃ back, mid = blanks ++ back ∧ rest = back ++ (word ++ after) := by
  rcases List.append_eq_append_iff.1 heq with ⟨back, hmid, hrest⟩ | ⟨back, hblank, hrest⟩
  · exact ⟨back, hmid, hrest⟩
  · cases back with
    | nil => exact ⟨[], by rw [hblank, List.append_nil, List.append_nil], hrest.symm⟩
    | cons c cs =>
      obtain ⟨d, ds, rfl⟩ := List.exists_cons_of_ne_nil hword.ne_nil
      obtain ⟨rfl, -⟩ := List.cons.inj hrest
      have hd := isBlank_of_isWordChar (hword.isWordChar d List.mem_cons_self)
      rw [hblanks d (by rw [hblank]; simp)] at hd
      cases hd

/-- A word from the SELECT on, with two parts behind it that end where the list begins, is the
SELECT itself, so these two are all of the white space. -/
theorem IsBegun.two_le_length {query front text blanks' front' behind : List Char}
    (h : IsBegun query before select blanks rest) (hle : before.length ≤ front.length)
    (heq : query = front ++ (text ++ behind)) (htext : IsRun front text behind)
    (hmid : front ++ text ++ blanks' ++ front' = before ++ (select ++ blanks))
    (hblanks' : blanks' ≠ []) (hfront' : front' ≠ []) : 2 ≤ blanks.length := by
  obtain ⟨rfl, hrun, -, -⟩ := h.isFirstRun
  rcases Nat.lt_or_eq_of_le hle with hlt | hsame
  · -- otherwise the first word would be in the white space
    obtain ⟨mid, rfl, -⟩ := hrun.exists_of_length_lt htext heq hlt
    simp only [List.append_assoc, List.append_cancel_left_eq] at hmid
    exact absurd hmid.symm (h.isBlankText.isGap.ne_append htext.isWordText)
  · obtain ⟨rfl, hbehind⟩ := List.append_inj heq hsame
    obtain ⟨rfl, -⟩ := hrun.eq_of_append_eq htext hbehind
    simp only [List.append_assoc, List.append_cancel_left_eq] at hmid
    rw [← hmid, List.length_append]
    exact Nat.add_le_add (List.length_pos_iff.2 hblanks') (List.length_pos_iff.2 hfront')

/-- Without a FROM that closes the list the pattern can only match if FROM stands where the list
should begin. -/
theorem find?_selectPattern_eq_none {query : List Char}
    (hbegun : IsBegun query before select blanks rest) (hnone : HasNoRun IsClosing rest)
    (hshort : ∀ word after, rest = word ++ after → IsRun [] word after →
      word.map foldChar = "from".toList → blanks.length < 2) :
    selectPattern.find? [] query = none := by
  obtain ⟨rfl, hrun, hopening, hfirst⟩ := hbegun.isFirstRun
  refine Pattern.find?_eq_none fun front rest' heq => ?_
  rw [Option.eq_none_iff_forall_ne_some]
  intro y hy
  obtain ⟨select', blanks', behind, rfl, hrun', hopening', hblanks', hne', hlist⟩ :=
    exists_of_run_selectPattern hy
  obtain ⟨front', word, after, rfl, hword, hclosing⟩ := exists_of_run_listPattern hlist
  have hne : front' ≠ [] := by
    rintro rfl
    obtain ⟨-, c, hc, -⟩ := hclosing
    cases hc
  have hle := hfirst _ _ _ heq hrun' hopening'
  have hselect' := List.length_pos_iff.2 hrun'.isWordText.ne_nil
  -- the FROM that the pattern has come to is behind the first SELECT
  have hlater : IsRun (front ++ select' ++ blanks' ++ front') word after := hword.append hne
  have heq' : before ++ (select ++ (blanks ++ rest)) =
      front ++ select' ++ blanks' ++ front' ++ (word ++ after) := by
    simpa only [List.append_assoc] using heq
  obtain ⟨mid, hmid, hbehind⟩ := hrun.exists_of_length_lt hlater heq' (by
    simp only [List.length_append]
    omega)
  have hclosing' : IsClosing (front ++ select' ++ blanks' ++ front') word after :=
    (isClosing_append_iff hne).2 hclosing
  obtain ⟨back, rfl, hrest⟩ := exists_of_blanks_append hbegun.isBlankText hword.isWordText hbehind
  by_cases hback : back = []
  · -- it stands where the list should begin
    subst hback
    rw [List.append_nil] at hmid
    have hlength := hbegun.two_le_length hle heq hrun' hmid hne' hne
    exact absurd (hshort word after hrest hword.alone hclosing.1) (Nat.not_lt.2 hlength)
  · -- it closes the list
    have hsplit : front ++ select' ++ blanks' ++ front' = before ++ (select ++ blanks) ++ back := by
      rw [hmid]
      simp only [List.append_assoc]
    rw [hsplit] at hlater hclosing'
    exact hnone back word after hrest hlater.of_append ((isClosing_append_iff hback).1 hclosing')

theorem IsBegun.ne_nil {query : List Char} (h : IsBegun query before select blanks rest) :
    blanks ≠ [] := by
  rintro rfl
  obtain ⟨-, c, hc, hblank⟩ := h.isFirstRun.holds
  rw [h.stops c hc] at hblank
  cases hblank

/-- FROM stands where the list should begin, and some of the white space is given back. -/
theorem run_several_of_from (before : List Char) {c : Char} (hne : blanks ≠ [])
    (hblanks : IsBlankText (blanks ++ [c]))
    (hnone : HasNoRun IsClosing (word ++ after)) (hrun : IsRun [] word after)
    (hword : word.map foldChar = "from".toList) :
    (Pattern.several isBlank).run (listPattern.run some)
        ⟨before, blanks ++ ([c] ++ (word ++ after)), []⟩ =
      some ⟨before ++ blanks ++ [] ++ [c] ++ word, after, [⟨before ++ blanks, []⟩]⟩ := by
  obtain ⟨hfront, hc⟩ := isBlankText_append.1 hblanks
  have hclosing : IsClosing ([] ++ [c]) word after :=
    isClosing_append (List.cons_ne_nil _ _) hc hword
  have hclosed : IsFirstRun IsClosing ([c] ++ (word ++ after)) ([] ++ [c]) word after :=
    isFirstRun_of_gap hc.isGap ⟨hrun.isWordText, hc.isGap.getLast?, hrun.after⟩ hclosing
  refine Pattern.run_several_eq_some hne hfront (run_listPattern hclosed hc nofun) ?_
  intro taken rest heq hall hlength
  obtain ⟨back, hback, rfl⟩ := exists_of_blanks_append hall hrun.isWordText
    (heq.symm.trans (List.append_assoc blanks [c] _).symm)
  have hnil : back = [] := by
    have hsum := congrArg List.length hback
    simp only [List.length_append, List.length_singleton] at hsum
    exact List.length_eq_zero_iff.1 (by omega)
  rw [hnil, List.nil_append]
  exact run_listPattern_eq_none hnone

/-- The pattern keeps the list. -/
theorem find?_selectPattern {query : List Char} {found : Option Part}
    (h : IsDelimited query found) :
    (selectPattern.find? [] query).bind (fun y => y.kept.head?) = found := by
  cases h with
  | closed hbegun hclosed hgap hlist =>
    rw [find?_selectPattern_of_run hbegun (Pattern.run_several_of_head? hbegun.ne_nil
      hbegun.isBlankText hbegun.stops (run_listPattern hclosed hgap hlist))]
    rfl
  | @empty before select blanks word after c hbegun hne hnone hrun hword =>
    have hrun' := run_several_of_from (before ++ select) hne hbegun.isBlankText hnone hrun hword
    rw [← List.append_assoc] at hrun'
    rw [find?_selectPattern_of_run hbegun hrun']
    rfl
  | unclosed hbegun hnone hshort =>
    rw [find?_selectPattern_eq_none hbegun hnone hshort]
    rfl
  | unopened hnone =>
    rw [Pattern.find?_eq_none fun front rest heq => ?_]
    · rfl
    · rw [Option.eq_none_iff_forall_ne_some]
      intro y hy
      obtain ⟨select, blanks, behind, rfl, hrun, hopening, -⟩ := exists_of_run_selectPattern hy
      exact hnone _ _ _ heq hrun hopening

/-! ## Lists -/

/-- A list that is closed begins and ends with characters that are no white space, and no FROM with
white space in front is in it. -/
theorem framed_of_closed {query : List Char} (hbegun : IsBegun query before select blanks rest)
    (hclosed : IsFirstRun IsClosing rest (list ++ gap) word after) (hgap : IsBlankText gap)
    (hlist : ∀ c ∈ list.getLast?, isBlank c = false) : Framed list ∧ HasNoRun IsClosing list := by
  obtain ⟨rfl, hrun, hclosing, hfirst⟩ := hclosed
  have hgap' := ne_nil_of_isClosing hclosing hlist
  have hne : list ≠ [] := by
    rintro rfl
    have hhead := hbegun.stops (gap.head hgap') (by
      rw [List.nil_append, List.head?_append_of_ne_nil _ hgap']
      exact List.head?_eq_some_head hgap')
    rw [hgap _ (List.head_mem hgap')] at hhead
    cases hhead
  have hstops := hbegun.stops
  rw [List.append_assoc, List.head?_append_of_ne_nil _ hne] at hstops
  refine ⟨⟨hne, hstops, hlist⟩, fun front word' after' heq hrun' hclosing' => ?_⟩
  -- a word of the list is a word of the query
  have hbehind : IsRun front word' (after' ++ (gap ++ (word ++ after))) := by
    refine ⟨hrun'.isWordText, hrun'.before, ?_⟩
    by_cases hend : after' = []
    · rw [hend, List.nil_append]
      exact isWordChar_head?_append hgap' hgap
    · rw [List.head?_append_of_ne_nil _ hend]
      exact hrun'.after
  have hle := hfirst front word' _ (by rw [heq]; simp only [List.append_assoc]) hbehind hclosing'
  have hpos := List.length_pos_iff.2 hrun'.isWordText.ne_nil
  rw [heq] at hle
  simp only [List.length_append] at hle
  omega

/-- The list that is checked is the one that is delimited, and it is what the pattern keeps.  There
is always one answer.  A list that a FROM closes is not empty, begins and ends with characters that
are no white space, and has no FROM with white space in front in it. -/
theorem selectList_isDelimited (query : List Char) :
    ∃ found : Option Part, (∀ found', IsDelimited query found' ↔ found' = found) ∧
      (selectPattern.find? [] query).bind (fun y => y.kept.head?) = found ∧
        selectList? query = found.map Part.text ∧
          ∀ before select blanks rest, IsBegun query before select blanks rest →
            ¬HasNoRun IsClosing rest →
              ∃ list, found = some ⟨before ++ select ++ blanks, list⟩ ∧ Framed list ∧
                HasNoRun IsClosing list := by
  obtain ⟨found, hdelimited, hlist⟩ := exists_isDelimited query
  have hfind := find?_selectPattern hdelimited
  have hunique : ∀ found', IsDelimited query found' ↔ found' = found := by
    intro found'
    constructor
    · intro h
      rw [← find?_selectPattern h, hfind]
    · rintro rfl
      exact hdelimited
  refine ⟨found, hunique, hfind, hlist, fun before select blanks rest hbegun hclosing => ?_⟩
  obtain ⟨front, word, after, hfirst⟩ := exists_isFirstRun hclosing
  obtain ⟨gap, hgap, hsplit, hlast⟩ := exists_of_trimEnd front
  rw [hsplit] at hfirst
  exact ⟨trimEnd front, ((hunique _).1 (.closed hbegun hfirst hgap hlast)).symm,
    framed_of_closed hbegun hfirst hgap hlast⟩

/-- White space can only be given back where there is enough of it. -/
example : selectList? "SELECT  FROM t".toList = some [] ∧
    selectList? "SELECT FROM t".toList = none := by
  decide +kernel

end Pattern

end QueryLint.Query
