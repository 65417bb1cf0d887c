import QueryLint.Proofs.Query.Scans
import QueryLint.Proofs.Text.FirstParts
import QueryLint.Proofs.Text.KeywordPatterns

/-!
# Marks of injection

There are three marks that injected text leaves behind.  What a mark is, is said of a part of the
query and of what is left behind the part: a semicolon in front of DROP (`IsDropMark`), a comment
marker at the end (`IsCommentMark`), and a condition that is always true (`IsTautology`).

* `scansFor_dropSpan?`, `scansFor_commentSpan?`, `scansFor_tautologySpan?`: each scan stops where a
  mark of its kind begins.
* `IsDropMark.head?`, `IsCommentMark.head?`, `IsTautology.head?`: a mark begins with its own sign, so
  a scan passes over other characters.
-/

namespace QueryLint.Query

open Text

variable {cs part after rest word behind : List Char}

/-! ## Marks -/

/-- A semicolon, white space, which may be missing, and the word DROP. -/
inductive IsDropMark : List Char → List Char → Prop
  | mk {blanks word after : List Char} (hblanks : IsBlankText blanks)
      (hrun : IsRun (';' :: blanks) word after) (hword : IsOneOf ["drop"] word) :
      IsDropMark (';' :: (blanks ++ word)) after

/-- Two dashes at the end. -/
structure IsCommentMark (part after : List Char) : Prop where
  part_eq : part = ['-', '-']
  after_eq : after = []

theorem IsDropMark.head? (h : IsDropMark part after) : part.head? = some ';' := by
  cases h
  rfl

theorem IsCommentMark.head? (h : IsCommentMark part after) : part.head? = some '-' := by
  rw [h.part_eq]
  rfl

theorem IsTautology.head? (h : IsTautology part) : part.head? = some '\'' := by
  obtain ⟨front, word, behind, left, right, rfl, -⟩ := h
  rfl

/-! ## DROP -/

theorem isDropMark_of_spells (h : spells "drop" ((trimStart cs).takeWhile isWordChar) = true) :
    IsDropMark (';' :: (blankPrefix cs ++ (trimStart cs).takeWhile isWordChar))
      ((trimStart cs).dropWhile isWordChar) := by
  have hword := spells_iff.1 h
  have htext : IsWordText "drop".toList := ⟨by decide, List.all_eq_true.1 (by decide)⟩
  have hgap : IsGap (';' :: blankPrefix cs) :=
    List.forall_mem_cons.2 ⟨by decide, (isBlankText_blankPrefix cs).isGap⟩
  refine .mk (isBlankText_blankPrefix cs)
    ⟨Pattern.isWordText_of_map_foldChar hword htext, hgap.getLast?, fun c hc => ?_⟩
    ⟨"drop", List.mem_singleton_self _, hword⟩
  have hstop := List.head?_dropWhile_not isWordChar (trimStart cs)
  rwa [Option.mem_def.1 hc] at hstop

theorem scansFor_dropSpan? : ScansFor dropSpan? IsDropMark where
  nil _ := rfl
  stop {part after} h pos := by
    cases h with
    | @mk blanks word _ hblanks hrun hword =>
      have hhead : ∀ c ∈ (word ++ after).head?, isBlank c = false :=
        isBlank_head?_append hrun.isWordText
      rw [List.cons_append, dropSpan?, List.append_assoc, trimStart_blanks_append hblanks hhead,
        blankPrefix_blanks_append hblanks hhead,
        takeWhile_isWordChar hrun.isWordText.isWordChar hrun.after]
      exact if_pos (by rw [spells_iff_isOneOf.2 hword]; rfl)
  move {c cs} hnone pos := by
    rw [dropSpan?]
    refine if_neg fun h => ?_
    rw [Bool.and_eq_true, decide_eq_true_eq] at h
    obtain ⟨rfl, hword⟩ := h
    refine hnone _ _ ?_ (isDropMark_of_spells hword)
    rw [List.cons_append, List.append_assoc, List.takeWhile_append_dropWhile,
      blankPrefix_append_trimStart]

/-! ## The comment marker -/

theorem scansFor_commentSpan? : ScansFor commentSpan? IsCommentMark where
  nil _ := rfl
  stop h pos := by
    obtain ⟨rfl, rfl⟩ := h
    exact if_pos rfl
  move {c cs} hnone pos := by
    refine if_neg fun h => ?_
    exact hnone ['-', '-'] [] (by rw [h, List.append_nil]) ⟨rfl, rfl⟩

/-! ## The condition that is always true -/

theorem afterOr?_append (hword : spells "or" word = true) (hne : behind ≠ [])
    (hbehind : IsBlankText behind) :
    afterOr? (word ++ (behind ++ rest)) = some (trimStart rest) := by
  have hlength := congrArg List.length (spells_iff.1 hword)
  obtain ⟨o, r, rfl⟩ : ∃ o r, word = [o, r] := by
    rw [List.length_map] at hlength
    exact List.length_eq_two.1 hlength
  obtain ⟨b, bs, rfl⟩ := List.exists_cons_of_ne_nil hne
  obtain ⟨hb, hbs⟩ := List.forall_mem_cons.1 hbehind
  show (if (spells "or" [o, r] && isBlank b) = true then some (trimStart (bs ++ rest)) else none) = _
  rw [if_pos (by rw [hword, hb]; rfl), trimStart_append_of_blank hbs]

theorem isBlank_head?_or (hword : spells "or" word = true) :
    ∀ c ∈ (word ++ rest).head?, isBlank c = false := by
  have hor : IsWordText "or".toList := ⟨by decide, List.all_eq_true.1 (by decide)⟩
  exact isBlank_head?_append (Pattern.isWordText_of_map_foldChar (spells_iff.1 hword) hor)

/-- A sign in front ends the white space. -/
theorem trimStart_blanks_sign {x : Char} (hblanks : IsBlankText behind) (hx : isBlank x = false) :
    trimStart (behind ++ (x :: rest)) = x :: rest :=
  trimStart_blanks_append hblanks (by rintro c ⟨⟩; exact hx)

theorem afterTautology?_append (h : IsTautology part) (rest : List Char) :
    afterTautology? (part ++ rest) = some rest := by
  obtain ⟨front, word, behind, left, right, rfl, hfront, hword, hne, hbehind, hleft, hright⟩ := h
  have hsplit : ['\''] ++ (front ++ word ++ behind ++ ['\'', '1', '\''] ++ left ++ ['='] ++ right) ++
      ['\'', '1'] ++ rest = ['\''] ++ (front ++ (word ++ (behind ++ ('\'' :: ('1' :: ('\'' ::
        (left ++ ('=' :: (right ++ ('\'' :: ('1' :: rest))))))))))) := by
    simp only [List.append_assoc, List.cons_append, List.nil_append]
  simp only [afterTautology?, Option.bind_eq_bind, Option.bind_eq_some_iff, after?_eq_some]
  rw [hsplit]
  refine ⟨_, rfl, ?_⟩
  rw [trimStart_blanks_append hfront (isBlank_head?_or hword), afterOr?_append hword hne hbehind,
    trimStart_of_head? (by rintro c ⟨⟩; decide)]
  exact ⟨_, rfl, _, rfl, _, trimStart_blanks_sign hleft (by decide),
    trimStart_blanks_sign hright (by decide)⟩

theorem scansFor_tautologySpan? : ScansFor tautologySpan? fun part _ => IsTautology part where
  nil _ := rfl
  stop {part after} h pos := by
    have hrest := afterTautology?_append h after
    obtain ⟨cs, rfl⟩ := List.head?_eq_some_iff.1 h.head?
    rw [List.cons_append] at hrest ⊢
    simp only [tautologySpan?, hrest]
    rw [← List.cons_append, byteSize_append, Nat.add_sub_cancel]
  move {c cs} hnone pos := by
    rw [tautologySpan?]
    cases hrest : afterTautology? (c :: cs) with
    | none => rfl
    | some rest =>
      obtain ⟨part, hpart, htautology⟩ := afterTautology?_eq_some hrest
      exact absurd htautology (hnone part rest hpart)

end QueryLint.Query
