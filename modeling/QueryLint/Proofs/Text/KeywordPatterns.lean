import QueryLint.Proofs.Text.Scanning

/-!
# Keywords in patterns

Most patterns begin with a keyword that has to be a whole word.  What is asked for behind it
decides this as much as the boundary in front: as long as nothing can be matched where a word goes
on (`Pattern.Stops`), the keyword reaches to the end of its word.  Then there is only one way to
match it, so that the order in which alternatives are tried does not matter
(`Pattern.run_wordThen_eq_some`).  It is the same with white space in front of something that does
not begin with white space (`Pattern.run_several_isBlank_eq_some`).

Some texts go up to one of several closing words, or else up to the end.  `IsUpTo` says so about
the text, and `Pattern.upTo` is the pattern: as few characters as possible in front of a closing
word, and all characters only if there is none.

* `IsOneOf`: a word is one of some keywords.
* `IsNext`: the next word, with only white space in front.
* `IsBody`: such a text behind white space.
* `Pattern.anyOf`, `Pattern.wordThen`, `Pattern.upTo`: the patterns.
* `Pattern.run_body`, `Word.Follow.exists_isBody`: what the pattern keeps, and what is read off
  words, is such a text.
-/

namespace QueryLint.Text

variable {keywords closers : List String} {before gap rest word after body blanks : List Char}

/-- The word is one of some keywords, up to simple case folding. -/
def IsOneOf (keywords : List String) (word : List Char) : Prop :=
  ∃ s ∈ keywords, word.map foldChar = s.toList

theorem isOneOf_iff {w : Word} : w.isOneOf keywords = true ↔ IsOneOf keywords w.text := by
  simp only [Word.isOneOf, Word.is, List.any_eq_true, spells_iff, IsOneOf]

theorem spells_iff_isOneOf {keyword : String} :
    spells keyword word = true ↔ IsOneOf [keyword] word := by
  simp only [spells_iff, IsOneOf, List.mem_singleton, exists_eq_left]

theorem is_iff_isOneOf {w : Word} {keyword : String} :
    w.is keyword = true ↔ IsOneOf [keyword] w.text := spells_iff_isOneOf

/-- Behind `before` there is white space, then the word `word`, and then `after`. -/
structure IsNext (before blanks word after : List Char) : Prop where
  ne_nil : blanks ≠ []
  isBlankText : IsBlankText blanks
  isRun : IsRun (before ++ blanks) word after

/-- What stands in front of the white space does not matter. -/
theorem IsNext.of_before (h : IsNext before blanks word after) (front : List Char) :
    IsNext front blanks word after where
  ne_nil := h.ne_nil
  isBlankText := h.isBlankText
  isRun := h.isRun.of_append.append h.ne_nil

/-- White space is followed by something else. -/
theorem exists_isBlankText_append (cs : List Char) :
    ∃ blanks after, cs = blanks ++ after ∧ IsBlankText blanks ∧
      ∀ c ∈ after.head?, isBlank c = false :=
  ⟨blankPrefix cs, trimStart cs, (blankPrefix_append_trimStart cs).symm, isBlankText_blankPrefix cs,
    fun c hc => by
      have hstop := List.head?_dropWhile_not isBlank cs
      rwa [← trimStart, Option.mem_def.1 hc] at hstop⟩

/-- `body` is the text up to the first closing word, or all of the text if there is no such word;
then `word` is empty. -/
inductive IsUpTo (closers : List String) (rest : List Char) :
    List Char → List Char → List Char → Prop
  | closed {body word after : List Char}
      (h : IsFirstRun (fun _ word _ => IsOneOf closers word) rest body word after) :
      IsUpTo closers rest body word after
  | unclosed (h : HasNoRun (fun _ word _ => IsOneOf closers word) rest) :
      IsUpTo closers rest rest [] []

theorem IsUpTo.eq_append (h : IsUpTo closers rest body word after) :
    rest = body ++ (word ++ after) := by
  cases h with
  | closed h => exact h.eq_append
  | unclosed => rw [List.append_nil, List.append_nil]

theorem exists_isUpTo (closers : List String) (rest : List Char) :
    ∃ body word after, IsUpTo closers rest body word after := by
  by_cases h : HasNoRun (fun _ word _ => IsOneOf closers word) rest
  · exact ⟨rest, [], [], .unclosed h⟩
  · obtain ⟨body, word, after, hfirst⟩ := exists_isFirstRun h
    exact ⟨body, word, after, .closed hfirst⟩

/-- No closing word is passed over. -/
theorem IsUpTo.append {text rest' : List Char} (h : IsUpTo closers rest body word rest')
    (hgap : IsGap gap) (htext : IsRun gap text rest) (hnot : ¬IsOneOf closers text) :
    IsUpTo closers (gap ++ (text ++ rest)) (gap ++ (text ++ body)) word rest' := by
  cases h with
  | closed h => exact .closed (h.append hgap htext hnot fun _ _ _ => Iff.rfl)
  | unclosed h => exact .unclosed (h.append hgap htext hnot fun _ _ _ => Iff.rfl)

/-- White space, and behind all of it the text up to a closing word, which is the body. -/
structure IsBody (closers : List String) (blanks body word after : List Char) : Prop where
  ne_nil : blanks ≠ []
  isBlankText : IsBlankText blanks
  isBlank_head? : ∀ c ∈ (body ++ (word ++ after)).head?, isBlank c = false
  isUpTo : IsUpTo closers (body ++ (word ++ after)) body word after

/-- There is a body wherever there is white space. -/
theorem exists_isBody (closers : List String) (h : ∃ c ∈ rest.head?, isBlank c = true) :
    ∃ blanks body word after, rest = blanks ++ (body ++ (word ++ after)) ∧
      IsBody closers blanks body word after := by
  obtain ⟨blanks, rest, rfl, hblanks, hrest⟩ := exists_isBlankText_append rest
  have hne : blanks ≠ [] := by
    rintro rfl
    obtain ⟨c, hc, htrue⟩ := h
    rw [hrest c hc] at htrue
    cases htrue
  obtain ⟨body, word, after, hupto⟩ := exists_isUpTo closers rest
  obtain rfl := hupto.eq_append
  exact ⟨blanks, body, word, after, rfl, hne, hblanks, hrest, hupto⟩

/-- White space begins with white space. -/
theorem exists_isBlank_head? (hne : blanks ≠ []) (hblanks : IsBlankText blanks) :
    ∃ c ∈ (blanks ++ rest).head?, isBlank c = true := by
  rw [List.head?_append_of_ne_nil _ hne]
  exact ⟨blanks.head hne, List.head?_eq_some_head hne, hblanks _ (List.head_mem hne)⟩

/-! ## Words -/

section Words

variable {w v : Word} {ws : List Word}

/-- Two words with only white space between them. -/
theorem Word.Follow.isNext (h : Follow before gap (w :: v :: ws)) (hblank : IsBlankText w.after) :
    IsNext (before ++ gap ++ w.text) w.after v.text (v.after ++ textOf ws) where
  ne_nil := by
    cases h.laid with
    | cons _ _ _ apart _ => exact apart (List.cons_ne_nil _ _)
  isBlankText := hblank
  isRun := h.next.isRun

/-- The next word, if there is one, is the one that follows. -/
theorem Word.Follow.exists_of_isNext (h : Follow before gap (w :: ws))
    (heq : w.after ++ textOf ws = blanks ++ (word ++ after)) {front : List Char}
    (hnext : IsNext front blanks word after) :
    ∃ v vs, ws = v :: vs ∧ blanks = w.after ∧ word = v.text ∧ after = v.after ++ textOf vs :=
  h.next.exists_of_append_eq hnext.isBlankText.isGap (hnext.of_before _).isRun heq

/-- Behind all white space there is something else. -/
theorem Word.Follow.isBlank_head?_trimStart (h : Follow before gap ws) :
    ∀ c ∈ (trimStart gap ++ textOf ws).head?, isBlank c = false := by
  intro c hc
  cases htrim : trimStart gap with
  | cons d ds =>
    have hhead := List.head?_dropWhile_not isBlank gap
    rw [← trimStart, htrim] at hhead
    rw [htrim] at hc
    cases hc
    exact hhead
  | nil =>
    rw [htrim, List.nil_append] at hc
    cases ws with
    | nil => cases hc
    | cons v vs =>
      rw [textOf_cons, List.append_assoc] at hc
      exact isBlank_head?_append (h.laid.isWordText_of_mem List.mem_cons_self) c hc

/-- White space follows a word directly. -/
theorem Word.Follow.beforeBlank_iff (h : Follow before gap (w :: ws)) :
    w.beforeBlank = true ↔ ∃ c ∈ (w.after ++ textOf ws).head?, isBlank c = true := by
  rw [beforeBlank]
  cases hafter : w.after with
  | cons c cs => simp
  | nil =>
    -- a word that nothing follows is the last one
    have hlast : ws = [] := by
      cases h.laid with
      | cons _ _ _ apart _ =>
        by_contra hne
        exact apart hne hafter
    simp [hlast]

theorem Word.blankPrefix_ne_nil (h : w.beforeBlank = true) : blankPrefix w.after ≠ [] := by
  rw [beforeBlank] at h
  intro hnil
  cases hafter : w.after with
  | nil =>
    rw [hafter] at h
    cases h
  | cons c cs =>
    rw [hafter] at h hnil
    have hc : isBlank c = true := h
    rw [blankPrefix, List.takeWhile_cons_of_pos hc] at hnil
    cases hnil

/-- What is read off words goes up to a closing word. -/
theorem Word.Follow.textUpTo (closers : List String) (h : Follow before gap ws) :
    ∃ word gap', IsUpTo closers (gap ++ textOf ws) (Text.textUpTo closers gap ws).1 word
        (gap' ++ textOf (Text.textUpTo closers gap ws).2) ∧
      Follow (before ++ (Text.textUpTo closers gap ws).1 ++ word) gap'
        (Text.textUpTo closers gap ws).2 := by
  induction ws generalizing before gap with
  | nil =>
    rw [Text.textUpTo, textOf_nil, List.append_nil]
    refine ⟨[], [], .unclosed (hasNoRun_of_isGap h.isGap), isGap_nil, .nil _, fun hne => ?_⟩
    exact absurd rfl hne
  | cons w ws ih =>
    have hrun : IsRun gap w.text (w.after ++ textOf ws) := h.isRun.of_append
    rw [Text.textUpTo, textOf_cons, List.append_assoc]
    by_cases hw : w.isOneOf closers = true
    · rw [if_pos hw]
      have hfirst : IsFirstRun (fun _ word _ => IsOneOf closers word)
          (gap ++ (w.text ++ (w.after ++ textOf ws))) gap w.text (w.after ++ textOf ws) :=
        isFirstRun_of_gap h.isGap hrun (isOneOf_iff.1 hw)
      exact ⟨w.text, w.after, .closed hfirst, h.next⟩
    · have hnot := mt isOneOf_iff.2 hw
      obtain ⟨word, gap', hupto, hfollow⟩ := ih h.next
      rw [if_neg hw]
      refine ⟨word, gap', ?_, by simpa only [List.append_assoc] using hfollow⟩
      simp only [List.append_assoc]
      exact hupto.append h.isGap hrun hnot

/-- What is read off words behind white space is a body. -/
theorem Word.Follow.exists_isBody (closers : List String) (h : Follow before gap (w :: ws))
    (hblank : w.beforeBlank = true) :
    ∃ word gap', w.after ++ textOf ws = blankPrefix w.after ++
        ((Text.textUpTo closers (trimStart w.after) ws).1 ++
          (word ++ (gap' ++ textOf (Text.textUpTo closers (trimStart w.after) ws).2))) ∧
      IsBody closers (blankPrefix w.after) (Text.textUpTo closers (trimStart w.after) ws).1 word
        (gap' ++ textOf (Text.textUpTo closers (trimStart w.after) ws).2) ∧
      Follow (before ++ gap ++ w.text ++ blankPrefix w.after ++
          (Text.textUpTo closers (trimStart w.after) ws).1 ++ word) gap'
        (Text.textUpTo closers (trimStart w.after) ws).2 := by
  have hnext := h.next
  have hhead := h.next.isBlank_head?_trimStart
  rw [← blankPrefix_append_trimStart w.after] at hnext
  obtain ⟨word, gap', hupto, hfollow⟩ := hnext.move.textUpTo closers
  have heq := hupto.eq_append
  refine ⟨word, gap', ?_, ⟨blankPrefix_ne_nil hblank, isBlankText_blankPrefix _, ?_, ?_⟩, hfollow⟩
  · rw [← heq, ← List.append_assoc, blankPrefix_append_trimStart]
  · rwa [← heq]
  · rwa [← heq]

end Words

/-! ## Patterns -/

/-- Keywords consist of word characters. -/
theorem isWordText_of_all
    (h : (keywords.all fun s => !s.toList.isEmpty && s.toList.all isWordChar) = true) :
    ∀ s ∈ keywords, IsWordText s.toList := by
  intro s hs
  have hboth := List.all_eq_true.1 h s hs
  rw [Bool.and_eq_true, Bool.not_eq_true', List.isEmpty_eq_false_iff] at hboth
  exact ⟨hboth.1, List.all_eq_true.1 hboth.2⟩

namespace Pattern

variable {a : Pattern} {k : Place → Option Place} {kept : List Part} {y : Place}

/-- What may be left out, but is matched if it can be. -/
def optional (a : Pattern) : Pattern := either a (keyword [])

theorem run_keyword_nil : (keyword []).run k ⟨before, rest, kept⟩ = k ⟨before, rest, kept⟩ := by
  have hempty : (keyword []).run k ⟨before, [] ++ rest, kept⟩ = k ⟨before ++ [], rest, kept⟩ :=
    run_keyword_append rfl
  rwa [List.nil_append, List.append_nil] at hempty

theorem run_optional : (optional a).run k ⟨before, rest, kept⟩ =
    (a.run k ⟨before, rest, kept⟩).or (k ⟨before, rest, kept⟩) := by
  rw [optional, run_either, run_keyword_nil]

/-- One of some keywords. -/
def anyOf : List String → Pattern
  | [] => one fun _ => false
  | s :: ss => either (keyword s.toList) (anyOf ss)

/-- One of some keywords as the start of a word, and `a` behind it. -/
def wordThen (keywords : List String) (a : Pattern) : Pattern :=
  both boundary (both (anyOf keywords) a)

/-- A text that is kept, as short as possible, up to a closing word, or else up to the end. -/
def upTo (closers : List String) : Pattern :=
  either (both (group (few fun _ => true)) (wordThen closers boundary)) (group (many fun _ => true))

/-- Nothing is matched in the middle of a word. -/
def Stops (k : Place → Option Place) : Prop :=
  ∀ {before c cs kept}, (∃ d ∈ before.getLast?, isWordChar d = true) → isWordChar c = true →
    k ⟨before, c :: cs, kept⟩ = none

/-- No white space is matched. -/
def StopsBlank (k : Place → Option Place) : Prop :=
  ∀ {before c cs kept}, isBlank c = true → k ⟨before, c :: cs, kept⟩ = none

theorem stops_boundary : Stops (boundary.run k) := by
  intro before c cs kept ⟨d, hd, hword⟩ hc
  refine if_neg ?_
  rw [Place.isBoundary, Option.mem_def.1 hd]
  simp [hword, hc]

theorem stops_one {p : Char → Bool} (hp : ∀ c, p c = true → isWordChar c = false) :
    Stops ((one p).run k) := by
  intro before c cs kept _ hc
  refine if_neg fun hpc => ?_
  rw [hp c hpc] at hc
  cases hc

theorem stops_several_isBlank : Stops ((both (several isBlank) a).run k) :=
  stops_one fun _ => isWordChar_of_isBlank

theorem stops_many_isBlank (hk : Stops (a.run k)) : Stops ((both (many isBlank) a).run k) := by
  intro before c cs kept hlast hc
  rw [run_both, Option.eq_none_iff_forall_ne_some]
  intro y hy
  obtain ⟨taken, rest, heq, htaken, h⟩ := exists_of_run_many hy
  cases taken with
  | nil =>
    rw [List.append_nil, ← List.nil_append rest, ← heq, hk hlast hc] at h
    cases h
  | cons d ds =>
    obtain ⟨rfl, -⟩ := List.cons.inj heq
    rw [isWordChar_of_isBlank (htaken c List.mem_cons_self)] at hc
    cases hc

/-- A keyword in front of something that stops is a whole word. -/
theorem exists_isRun_of_run_keyword {chars : List Char} (hchars : IsWordText chars) (hk : Stops k)
    (h : (keyword chars).run k ⟨before, rest, kept⟩ = some y) :
    ∃ word after, rest = word ++ after ∧ IsRun [] word after ∧ word.map foldChar = chars ∧
      k ⟨before ++ word, after, kept⟩ = some y := by
  obtain ⟨word, after, rfl, hword, h⟩ := exists_of_run_keyword h
  have htext := isWordText_of_map_foldChar hword hchars
  refine ⟨word, after, rfl, ⟨htext, nofun, fun c hc => ?_⟩, hword, h⟩
  by_contra hchar
  rw [Bool.not_eq_false] at hchar
  obtain ⟨cs, rfl⟩ : ∃ cs, after = c :: cs := List.head?_eq_some_iff.1 hc
  have hlast : ∃ d ∈ (before ++ word).getLast?, isWordChar d = true := by
    rw [List.getLast?_append_of_ne_nil _ htext.ne_nil]
    exact ⟨_, List.getLast?_eq_some_getLast htext.ne_nil,
      htext.isWordChar _ (List.getLast_mem htext.ne_nil)⟩
  rw [hk hlast hchar] at h
  cases h

/-- Of some keywords at most one can be matched. -/
theorem run_anyOf_eq_some (hkeywords : ∀ s ∈ keywords, IsWordText s.toList) (hk : Stops k) :
    (anyOf keywords).run k ⟨before, rest, kept⟩ = some y ↔
      ∃ word after, rest = word ++ after ∧ IsRun [] word after ∧ IsOneOf keywords word ∧
        k ⟨before ++ word, after, kept⟩ = some y := by
  induction keywords with
  | nil =>
    refine iff_of_false (fun h => ?_) ?_
    · obtain ⟨c, cs, -, hc, -⟩ := exists_of_run_one h
      cases hc
    · rintro ⟨word, after, -, -, ⟨s, hs, -⟩, -⟩
      cases hs
  | cons s ss ih =>
    obtain ⟨hs, hss⟩ := List.forall_mem_cons.1 hkeywords
    rw [anyOf, run_either, Option.or_eq_some_iff]
    constructor
    · rintro (h | ⟨-, h⟩)
      · obtain ⟨word, after, rfl, hrun, hword, h⟩ := exists_isRun_of_run_keyword hs hk h
        exact ⟨word, after, rfl, hrun, ⟨s, List.mem_cons_self, hword⟩, h⟩
      · obtain ⟨word, after, rfl, hrun, ⟨s', hs', hword⟩, h⟩ := (ih hss).1 h
        exact ⟨word, after, rfl, hrun, ⟨s', List.mem_cons_of_mem s hs', hword⟩, h⟩
    · rintro ⟨word, after, rfl, hrun, ⟨s', hs', hword⟩, h⟩
      cases hfirst : (keyword s.toList).run k ⟨before, word ++ after, kept⟩ with
      | some z =>
        -- then it is the same word
        obtain ⟨word', after', heq, hrun', -, h'⟩ := exists_isRun_of_run_keyword hs hk hfirst
        obtain ⟨rfl, rfl⟩ := hrun.eq_of_append_eq hrun' heq
        exact Or.inl (h'.symm.trans h)
      | none =>
        rcases List.mem_cons.1 hs' with rfl | hs'
        · rw [run_keyword_append hword, h] at hfirst
          cases hfirst
        · exact Or.inr ⟨rfl, (ih hss).2 ⟨word, after, rfl, hrun, ⟨s', hs', hword⟩, h⟩⟩

/-- A keyword as the start of a word, in front of something that stops, is a whole word. -/
theorem run_wordThen_eq_some (hkeywords : ∀ s ∈ keywords, IsWordText s.toList)
    (hk : Stops (a.run k)) :
    (wordThen keywords a).run k ⟨before, rest, kept⟩ = some y ↔
      ∃ word after, rest = word ++ after ∧ IsRun before word after ∧ IsOneOf keywords word ∧
        a.run k ⟨before ++ word, after, kept⟩ = some y := by
  rw [wordThen, run_both, run_boundary_eq_some, run_both, run_anyOf_eq_some hkeywords hk]
  constructor
  · rintro ⟨hboundary, word, after, rfl, hrun, hword, h⟩
    have hbefore := (isBoundary_front hrun.isWordText).1 hboundary
    exact ⟨word, after, rfl, ⟨hrun.isWordText, hbefore, hrun.after⟩, hword, h⟩
  · rintro ⟨word, after, rfl, hrun, hword, h⟩
    exact ⟨(isBoundary_front hrun.isWordText).2 hrun.before, word, after, rfl, hrun.alone, hword, h⟩

/-- A boundary behind a keyword makes it a whole word. -/
theorem run_wordThen_boundary_eq_some (hkeywords : ∀ s ∈ keywords, IsWordText s.toList) :
    (wordThen keywords boundary).run k ⟨before, rest, kept⟩ = some y ↔
      ∃ word after, rest = word ++ after ∧ IsRun before word after ∧ IsOneOf keywords word ∧
        k ⟨before ++ word, after, kept⟩ = some y := by
  rw [run_wordThen_eq_some hkeywords stops_boundary]
  refine exists_congr fun word => exists_congr fun after => and_congr_right fun _ =>
    and_congr_right fun hrun => and_congr_right fun _ => ?_
  rw [run_boundary_eq_some, isBoundary_back hrun.isWordText]
  exact and_iff_right hrun.after

/-- White space in front of something else is taken as a whole. -/
theorem run_several_isBlank_eq_some (hk : StopsBlank k) :
    (several isBlank).run k ⟨before, rest, kept⟩ = some y ↔
      ∃ blanks after, rest = blanks ++ after ∧ blanks ≠ [] ∧ IsBlankText blanks ∧
        k ⟨before ++ blanks, after, kept⟩ = some y := by
  constructor
  · exact fun h => exists_of_run_several h
  · rintro ⟨blanks, after, rfl, hne, hblanks, h⟩
    refine run_several_of_head? hne hblanks (fun c hc => ?_) h
    by_contra hblank
    obtain ⟨cs, rfl⟩ : ∃ cs, after = c :: cs := List.head?_eq_some_iff.1 hc
    rw [hk (by simpa using hblank)] at h
    cases h

/-- White space and a keyword behind it, in front of something that stops. -/
theorem run_blanks_anyOf_eq_some (hkeywords : ∀ s ∈ keywords, IsWordText s.toList)
    (hk : Stops (a.run k)) :
    (both (several isBlank) (both (anyOf keywords) a)).run k ⟨before, rest, kept⟩ = some y ↔
      ∃ blanks word after, rest = blanks ++ (word ++ after) ∧ IsNext before blanks word after ∧
        IsOneOf keywords word ∧ a.run k ⟨before ++ blanks ++ word, after, kept⟩ = some y := by
  have hblank : StopsBlank ((both (anyOf keywords) a).run k) := by
    intro before c cs kept hc
    rw [run_both, Option.eq_none_iff_forall_ne_some]
    intro y hy
    obtain ⟨word, after, heq, hrun, -⟩ := (run_anyOf_eq_some hkeywords hk).1 hy
    have hword := isBlank_head?_append hrun.isWordText c (by rw [← heq]; rfl)
    rw [hc] at hword
    cases hword
  rw [run_both, run_several_isBlank_eq_some hblank]
  simp only [run_both, run_anyOf_eq_some hkeywords hk]
  constructor
  · rintro ⟨blanks, _, rfl, hne, hblanks, word, after, rfl, hrun, hword, h⟩
    have hnext : IsRun (before ++ blanks) word after :=
      ⟨hrun.isWordText, isWordChar_getLast?_append hne hblanks, hrun.after⟩
    exact ⟨blanks, word, after, rfl, ⟨hne, hblanks, hnext⟩, hword, h⟩
  · rintro ⟨blanks, word, after, rfl, hnext, hword, h⟩
    exact ⟨blanks, _, rfl, hnext.ne_nil, hnext.isBlankText, word, after, rfl, hnext.isRun.alone,
      hword, h⟩

/-- The pattern keeps the text up to the closing word. -/
theorem run_upTo (hclosers : ∀ s ∈ closers, IsWordText s.toList)
    (hbefore : ∀ c ∈ before.getLast?, isWordChar c = false)
    (h : IsUpTo closers rest body word after) :
    (upTo closers).run some ⟨before, rest, kept⟩ =
      some ⟨before ++ body ++ word, after, kept ++ [⟨before, body⟩]⟩ := by
  have hkeep (rest rest' body : List Char) :
      Place.keep ⟨before, rest, kept⟩ ⟨before ++ body, rest', kept⟩ =
        ⟨before ++ body, rest', kept ++ [⟨before, body⟩]⟩ := by
    simp [Place.keep]
  rw [upTo, run_either, run_both, run_group, run_group, Option.or_eq_some_iff]
  cases h with
  | closed h =>
    obtain ⟨rfl, hrun, hword, hfirst⟩ := h
    left
    refine run_few_eq_some (fun _ _ => rfl) ?_ fun taken rest' heq hlength => ?_
    · rw [hkeep, run_wordThen_boundary_eq_some hclosers]
      have hrun' : IsRun (before ++ body) word after := by
        by_cases hbody : body = []
        · rw [hbody, List.append_nil]
          exact ⟨hrun.isWordText, hbefore, hrun.after⟩
        · exact hrun.append hbody
      exact ⟨word, after, rfl, hrun', hword, rfl⟩
    · rw [hkeep, Option.eq_none_iff_forall_ne_some]
      intro y hy
      obtain ⟨word', after', rfl, hrun', hword', -⟩ :=
        (run_wordThen_boundary_eq_some hclosers).1 hy
      have hle := hfirst taken word' after' heq hrun'.of_append hword'
      omega
  | unclosed h =>
    right
    constructor
    · rw [Option.eq_none_iff_forall_ne_some]
      intro y hy
      obtain ⟨taken, rest', rfl, -, hy⟩ := exists_of_run_few hy
      rw [hkeep] at hy
      obtain ⟨word', after', rfl, hrun', hword', -⟩ :=
        (run_wordThen_boundary_eq_some hclosers).1 hy
      exact h taken word' after' rfl hrun'.of_append hword'
    · have hall : (many fun _ => true).run (fun y => some (Place.keep ⟨before, rest, kept⟩ y))
          ⟨before, rest ++ [], kept⟩ = some ⟨before ++ rest, [], kept ++ [⟨before, rest⟩]⟩ := by
        refine run_many_eq_some (fun _ _ => rfl) (by rw [hkeep]) fun taken rest' heq _ hlength => ?_
        have hsum := congrArg List.length heq
        simp only [List.length_append, List.length_nil] at hsum
        omega
      rwa [List.append_nil, ← List.append_nil (before ++ rest)] at hall

/-- Behind white space the pattern keeps the body. -/
theorem run_body (hclosers : ∀ s ∈ closers, IsWordText s.toList)
    (h : IsBody closers blanks body word after) :
    (both (several isBlank) (upTo closers)).run some
        ⟨before, blanks ++ (body ++ (word ++ after)), kept⟩ =
      some ⟨before ++ blanks ++ body ++ word, after, kept ++ [⟨before ++ blanks, body⟩]⟩ :=
  run_several_of_head? h.ne_nil h.isBlankText h.isBlank_head?
    (run_upTo hclosers (isWordChar_getLast?_append h.ne_nil h.isBlankText) h.isUpTo)

/-! ## Signs -/

/-- A text, letter for letter. -/
def literal : List Char → Pattern
  | [] => keyword []
  | c :: cs => both (one (· == c)) (literal cs)

/-- One of some texts, letter for letter. -/
def anyLiteral : List (List Char) → Pattern
  | [] => one fun _ => false
  | chars :: later => either (literal chars) (anyLiteral later)

theorem run_literal_eq_some {chars : List Char} :
    (literal chars).run k ⟨before, rest, kept⟩ = some y ↔
      ∃ after, rest = chars ++ after ∧ k ⟨before ++ chars, after, kept⟩ = some y := by
  induction chars generalizing before rest with
  | nil =>
    rw [literal, run_keyword_nil, List.append_nil]
    simp only [List.nil_append, exists_eq_left']
  | cons c cs ih =>
    rw [literal, run_both]
    constructor
    · intro h
      obtain ⟨d, ds, rfl, hd, hlater⟩ := exists_of_run_one h
      obtain rfl := beq_iff_eq.1 hd
      obtain ⟨after, heq, hk⟩ := ih.1 hlater
      rw [← List.append_cons] at hk
      exact ⟨after, congrArg (d :: ·) heq, hk⟩
    · rintro ⟨after, rfl, h⟩
      rw [List.append_cons] at h
      rw [List.cons_append, run_one_cons (p := (· == c)) (beq_self_eq_true c)]
      exact ih.2 ⟨after, rfl, h⟩

theorem isSome_run_anyLiteral {literals : List (List Char)} :
    ((anyLiteral literals).run k ⟨before, rest, kept⟩).isSome = true ↔
      ∃ chars ∈ literals, ∃ after, rest = chars ++ after ∧
        (k ⟨before ++ chars, after, kept⟩).isSome = true := by
  induction literals with
  | nil =>
    refine iff_of_false (fun h => ?_) (by rintro ⟨chars, hchars, -⟩; cases hchars)
    obtain ⟨y, hy⟩ := Option.isSome_iff_exists.1 h
    obtain ⟨c, cs, -, hc, -⟩ := exists_of_run_one hy
    cases hc
  | cons chars later ih =>
    have hfirst : ((literal chars).run k ⟨before, rest, kept⟩).isSome = true ↔
        ∃ after, rest = chars ++ after ∧ (k ⟨before ++ chars, after, kept⟩).isSome = true := by
      simp only [Option.isSome_iff_exists, run_literal_eq_some]
      constructor
      · rintro ⟨y, after, heq, h⟩
        exact ⟨after, heq, y, h⟩
      · rintro ⟨after, heq, y, h⟩
        exact ⟨y, after, heq, h⟩
    rw [anyLiteral, run_either, Option.isSome_or, Bool.or_eq_true, hfirst, ih]
    simp only [List.mem_cons, exists_eq_or_imp]

end Pattern

end QueryLint.Text
