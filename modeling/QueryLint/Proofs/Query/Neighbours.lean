import QueryLint.Proofs.Query.Scans
import QueryLint.Proofs.Text.KeywordPatterns

/-!
# Two keywords side by side

Where a list is left out, two keywords stand side by side: there is nothing but white space between
them.  Both have to be whole words, so it depends on the characters around them, and on those only,
whether they count.

`IsSideBySide` says so about the part of a text that reaches from the one to the other.  The first
such part is what is read off words (`isFirstSpan_adjacentSpan?`), and a pattern with a boundary at
either end matches it and nothing in front of it (`isFirstSpan_iff_find?`).

* `IsSideBySide`: two keywords and the white space between them.
* `BeginsPair`: the same, seen from the first of the two words.
* `sideBySide`: the pattern; `pairThen`: the same with something else behind it.
-/

namespace QueryLint.Query

open Text

variable {first second : String} {cs before front gap part rest word after blanks : List Char}

/-- The part is the word `first`, white space, and the word `second`. -/
inductive IsSideBySide (first second : String) : List Char → List Char → List Char → Prop
  | mk {front word blanks next after : List Char}
      (isRun : IsRun front word (blanks ++ (next ++ after))) (isFirst : IsOneOf [first] word)
      (isNext : IsNext (front ++ word) blanks next after) (isSecond : IsOneOf [second] next) :
      IsSideBySide first second front (word ++ (blanks ++ next)) after

/-- The word is `first`, and behind white space the word `second` follows. -/
def BeginsPair (first second : String) (word after : List Char) : Prop :=
  IsOneOf [first] word ∧ ∃ blanks next behind, after = blanks ++ (next ++ behind) ∧
    IsNext word blanks next behind ∧ IsOneOf [second] next

/-- Two keywords side by side begin with a word. -/
theorem IsSideBySide.exists_beginsPair (h : IsSideBySide first second front part after) :
    ∃ word rest, part ++ after = word ++ rest ∧ IsRun front word rest ∧
      BeginsPair first second word rest := by
  obtain ⟨hrun, hfirst, hnext, hsecond⟩ := h
  exact ⟨_, _, by simp only [List.append_assoc], hrun, hfirst, _, _, _, rfl, hnext.of_before _,
    hsecond⟩

theorem BeginsPair.exists_isSideBySide (h : BeginsPair first second word rest)
    (hrun : IsRun front word rest) :
    ∃ part after, word ++ rest = part ++ after ∧ IsSideBySide first second front part after := by
  obtain ⟨hfirst, blanks, next, behind, rfl, hnext, hsecond⟩ := h
  exact ⟨_, behind, by simp only [List.append_assoc], .mk hrun hfirst (hnext.of_before _) hsecond⟩

/-- At one place there is at most one such part. -/
theorem IsSideBySide.part_eq {part' after' : List Char}
    (h : IsSideBySide first second front part after)
    (h' : IsSideBySide first second front part' after') (heq : part ++ after = part' ++ after') :
    part = part' := by
  obtain ⟨hrun, -, hnext, -⟩ := h
  obtain ⟨hrun', -, hnext', -⟩ := h'
  simp only [List.append_assoc] at heq
  obtain ⟨rfl, hrest⟩ := hrun.eq_of_append_eq hrun' heq
  -- behind the first word there is one next word
  obtain ⟨rfl, rfl, -⟩ := IsRun.unique hnext.isBlankText.isGap hnext'.isBlankText.isGap
    (hnext.of_before []).isRun (hnext'.of_before []).isRun hrest
  rfl

/-- The first such part begins where the first such word begins. -/
theorem IsSideBySide.isFirstRun_iff (h : IsSideBySide first second front part after)
    (hrun : IsRun front word rest) (hsplit : word ++ rest = part ++ after) :
    IsFirstRun (fun _ => BeginsPair first second) cs front word rest ↔
      IsFirstPart (IsSideBySide first second) cs front part after := by
  have hword : BeginsPair first second word rest := by
    obtain ⟨word', rest', heq, hrun', hpair⟩ := h.exists_beginsPair
    obtain ⟨rfl, rfl⟩ := hrun.eq_of_append_eq hrun' (hsplit.trans heq)
    exact hpair
  constructor
  · rintro ⟨heq, -, -, hfirst⟩
    refine ⟨hsplit ▸ heq, h, fun front' part' after' heq' h' => ?_⟩
    obtain ⟨word', rest', hsplit', hrun', hpair'⟩ := h'.exists_beginsPair
    exact hfirst front' word' rest' (hsplit' ▸ heq') hrun' hpair'
  · rintro ⟨heq, -, hfirst⟩
    refine ⟨hsplit ▸ heq, hrun, hword, fun front' word' rest' heq' hrun' hpair' => ?_⟩
    obtain ⟨part', after', hsplit', h'⟩ := hpair'.exists_isSideBySide hrun'
    exact hfirst front' part' after' (hsplit' ▸ heq') h'

theorem hasNoPart_of_hasNoRun (h : HasNoRun (fun _ => BeginsPair first second) cs) :
    HasNoPart (IsSideBySide first second) cs := by
  intro front part after heq hpart
  obtain ⟨word, rest, hsplit, hrun, hpair⟩ := hpart.exists_beginsPair
  exact h front word rest (hsplit ▸ heq) hrun hpair

/-- The first two keywords side by side have one span. -/
theorem firstSpan_unique {s s' : Option Span} (h : IsFirstSpan (IsSideBySide first second) cs s)
    (h' : IsFirstSpan (IsSideBySide first second) cs s') : s = s' := by
  cases h with
  | found hfirst =>
    cases h' with
    | found hfirst' =>
      obtain ⟨rfl, heq⟩ := hfirst.front_eq hfirst'
      rw [hfirst.holds.part_eq hfirst'.holds heq]
    | missing hnone => exact absurd hfirst.holds (hnone _ _ _ hfirst.eq_append)
  | missing hnone =>
    cases h' with
    | found hfirst' => exact absurd hfirst'.holds (hnone _ _ _ hfirst'.eq_append)
    | missing => rfl

/-! ## What is read off words -/

section Words

variable {w : Word} {ws : List Word}

/-- Whether the word is `first`, and its adjacent next word `second`. -/
def beginsPair (first second : String) (w : Word) (ws : List Word) : Bool :=
  ws.head?.any fun v => w.is first && w.after.all isBlank && v.is second

theorem beginsPair_iff (h : Word.Follow before gap (w :: ws)) :
    BeginsPair first second w.text (w.after ++ Word.textOf ws) ↔
      beginsPair first second w ws = true := by
  constructor
  · rintro ⟨hfirst, blanks, next, behind, heq, hnext, hsecond⟩
    obtain ⟨v, vs, rfl, rfl, rfl, -⟩ := h.exists_of_isNext heq hnext
    simp only [beginsPair, List.head?_cons, Option.any_some, Bool.and_eq_true, List.all_eq_true]
    exact ⟨⟨is_iff_isOneOf.2 hfirst, hnext.isBlankText⟩, is_iff_isOneOf.2 hsecond⟩
  · cases ws with
    | nil => nofun
    | cons v vs =>
      simp only [beginsPair, List.head?_cons, Option.any_some, Bool.and_eq_true, List.all_eq_true]
      rintro ⟨⟨hfirst, hblank⟩, hsecond⟩
      refine ⟨is_iff_isOneOf.1 hfirst, w.after, v.text, v.after ++ Word.textOf vs, ?_,
        (h.isNext hblank).of_before _, is_iff_isOneOf.1 hsecond⟩
      rw [Word.textOf_cons, List.append_assoc]

/-- The first pair of adjacent keywords begins with the first word that begins one. -/
theorem adjacentPair?_eq (first second : String) (ws : List Word) :
    adjacentPair? first second ws = (firstWord? (beginsPair first second) ws).bind fun found =>
      match found.2 with
      | v :: rest => some (found.1, v, rest)
      | [] => none := by
  fun_induction adjacentPair? first second ws with
  | case1 w v rest hpair =>
    have hbegins : beginsPair first second w (v :: rest) = true := hpair
    rw [firstWord?, if_pos hbegins]
    rfl
  | case2 w v rest hpair ih =>
    have hbegins : ¬beginsPair first second w (v :: rest) = true := hpair
    rw [firstWord?, if_neg hbegins, ih]
  | case3 ws hshort =>
    cases ws with
    | nil => rfl
    | cons w ws =>
      cases ws with
      | nil => rfl
      | cons v rest => exact absurd rfl (hshort w v rest)

theorem isSome_adjacentPair? (first second : String) (ws : List Word) :
    (adjacentPair? first second ws).isSome = (firstWord? (beginsPair first second) ws).isSome := by
  rw [adjacentPair?_eq]
  cases hword : firstWord? (beginsPair first second) ws with
  | none => rfl
  | some found =>
    obtain ⟨w, vs⟩ := found
    have hbegins := firstWord?_eq_some hword
    cases vs with
    | nil => exact absurd hbegins Bool.false_ne_true
    | cons v rest => rfl

end Words

/-- The span that is read off words is that of the first two keywords side by side. -/
theorem isFirstSpan_adjacentSpan? (first second : String) (cs : List Char) :
    IsFirstSpan (IsSideBySide first second) cs
      (adjacentSpan? first second (wordsOf cs)) := by
  have hbegins : ∀ {before gap w ws}, Word.Follow before gap (w :: ws) →
      (BeginsPair first second w.text (w.after ++ Word.textOf ws) ↔
        beginsPair first second w ws = true) := beginsPair_iff
  have hspec := firstWord?_wordsOf hbegins cs
  rw [adjacentSpan?, adjacentPair?_eq]
  cases hword : firstWord? (beginsPair first second) (wordsOf cs) with
  | none =>
    simp only [hword] at hspec
    exact .missing (hasNoPart_of_hasNoRun hspec)
  | some found =>
    obtain ⟨w, ws⟩ := found
    simp only [hword] at hspec
    obtain ⟨front, gap, hfirst, hfollow⟩ := hspec
    obtain ⟨hw, blanks, next, behind, heq, hnext, hv⟩ := hfirst.holds
    obtain ⟨v, vs, rfl, rfl, rfl, rfl⟩ := hfollow.exists_of_isNext heq hnext
    have hrun := hfirst.isRun
    rw [heq] at hrun
    have hpart : IsSideBySide first second (front ++ gap) (w.text ++ (w.after ++ v.text))
        (v.after ++ Word.textOf vs) := .mk hrun hw (hnext.of_before _) hv
    have hspan : w.span.upTo v.span =
        .ofParts (front ++ gap) (w.text ++ (w.after ++ v.text)) := by
      rw [Word.span, Word.span, Span.upTo, Span.ofParts, hfollow.start_eq, hfollow.next.start_eq]
      simp only [byteSize_append, Span.mk.injEq, true_and]
      omega
    rw [Option.bind_some, Option.map_some, hspan]
    refine .found ((hpart.isFirstRun_iff hfirst.isRun ?_).1 hfirst)
    rw [heq]
    simp only [List.append_assoc]

/-! ## The pattern -/

/-- The word `first`, white space, and `second` in front of what `a` matches. -/
def pairThen (first second : String) (a : Pattern) : Pattern :=
  .wordThen [first] (.both (.several isBlank) (.both (.anyOf [second]) a))

/-- Two keywords with white space between them and a boundary at either end. -/
def sideBySide (first second : String) : Pattern := .group (pairThen first second .boundary)

section Pattern

variable {a : Pattern} {k : Place → Option Place} {kept : List Part} {y : Place}
  (hfirst : IsWordText first.toList) (hsecond : IsWordText second.toList)

include hfirst hsecond

theorem run_pairThen_eq_some (ha : Pattern.Stops (a.run k)) :
    (pairThen first second a).run k ⟨before, rest, kept⟩ = some y ↔
      ∃ word blanks next behind, rest = word ++ (blanks ++ (next ++ behind)) ∧
        IsRun before word (blanks ++ (next ++ behind)) ∧ IsOneOf [first] word ∧
          IsNext (before ++ word) blanks next behind ∧ IsOneOf [second] next ∧
            a.run k ⟨before ++ word ++ blanks ++ next, behind, kept⟩ = some y := by
  have hone : ∀ s ∈ [first], IsWordText s.toList := List.forall_mem_singleton.2 hfirst
  have htwo : ∀ s ∈ [second], IsWordText s.toList := List.forall_mem_singleton.2 hsecond
  rw [pairThen, Pattern.run_wordThen_eq_some hone Pattern.stops_several_isBlank]
  simp only [Pattern.run_blanks_anyOf_eq_some htwo ha]
  constructor
  · rintro ⟨word, _, rfl, hrun, hword, blanks, next, behind, rfl, hnext, hby, h⟩
    exact ⟨word, blanks, next, behind, rfl, hrun, hword, hnext, hby, h⟩
  · rintro ⟨word, blanks, next, behind, rfl, hrun, hword, hnext, hby, h⟩
    exact ⟨word, _, rfl, hrun, hword, blanks, next, behind, rfl, hnext, hby, h⟩

theorem run_sideBySide_eq_some :
    (sideBySide first second).run some ⟨before, rest, []⟩ = some y ↔
      ∃ part after, rest = part ++ after ∧ IsSideBySide first second before part after ∧
        y = ⟨before ++ part, after, [⟨before, part⟩]⟩ := by
  rw [sideBySide, Pattern.run_group, run_pairThen_eq_some hfirst hsecond Pattern.stops_boundary]
  simp only [Pattern.run_boundary_eq_some]
  constructor
  · rintro ⟨word, blanks, next, after, rfl, hrun, hword, hnext, hby, -, h⟩
    refine ⟨_, after, by simp only [List.append_assoc], .mk hrun hword hnext hby, ?_⟩
    rw [← Option.some.inj h]
    simp [Place.keep]
  · rintro ⟨_, after, rfl, ⟨hrun, hword, hnext, hby⟩, rfl⟩
    refine ⟨_, _, _, after, by simp only [List.append_assoc], hrun, hword, hnext, hby, ?_,
      by simp [Place.keep]⟩
    exact (Pattern.isBoundary_back hnext.isRun.isWordText).2 hnext.isRun.after

/-- The pattern keeps the first two keywords side by side. -/
theorem isFirstSpan_iff_find? {s : Option Span} :
    IsFirstSpan (IsSideBySide first second) cs s ↔
      s = (((sideBySide first second).find? [] cs).bind fun y => y.kept.head?).map Part.span := by
  have hruns : ∀ {before rest y}, (sideBySide first second).run some ⟨before, rest, []⟩ = some y →
      ∃ word after, rest = word ++ after ∧ IsRun before word after ∧
        BeginsPair first second word after := by
    intro before rest y h
    obtain ⟨part, after, rfl, hpart, -⟩ := (run_sideBySide_eq_some hfirst hsecond).1 h
    exact hpart.exists_beginsPair
  have hfind : IsFirstSpan (IsSideBySide first second) cs
      ((((sideBySide first second).find? [] cs).bind fun y => y.kept.head?).map Part.span) := by
    by_cases hnone : HasNoRun (fun _ => BeginsPair first second) cs
    · rw [Pattern.find?_of_hasNoRun hruns hnone]
      exact .missing (hasNoPart_of_hasNoRun hnone)
    · obtain ⟨front, word, rest, hword⟩ := exists_isFirstRun hnone
      obtain ⟨part, after, hsplit, hpart⟩ := hword.holds.exists_isSideBySide hword.isRun
      rw [Pattern.find?_of_isFirstRun hruns hword
        ((run_sideBySide_eq_some hfirst hsecond).2 ⟨part, after, hsplit, hpart, rfl⟩)]
      exact .found ((hpart.isFirstRun_iff hword.isRun hsplit).1 hword)
  exact ⟨fun h => firstSpan_unique h hfind, fun h => h ▸ hfind⟩

end Pattern

end QueryLint.Query
