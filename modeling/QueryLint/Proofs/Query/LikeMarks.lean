import QueryLint.Proofs.Query.LikeScans

/-!
# Marks in queries that look alike

Parentheses and the marks of injection are looked for character by character.  These scans follow
the relation of the texts: at a character that may stand for another the scan does one step in both
texts, and at a stretch of white space it does nothing but move on (`ScansFor.blanks_append`,
`scanParentheses_blank_append`), since no mark begins with white space.

* `dropSpan?_rel`, `commentSpan?_rel`, `tautologySpan?_rel`: the marks of injection.
* `Finding.Alike`: findings that differ at most in their place.
* `scanParentheses_rel`: parentheses.
-/

namespace QueryLint.Query

open Text

variable {l : Leeway} {cs ds : List Char} {m n : Nat}

/-! ## DROP behind a semicolon -/

theorem takeWhile_isWordChar_rel (h : Alike l cs ds) :
    List.Forall₂ l.Chars (cs.takeWhile isWordChar) (ds.takeWhile isWordChar) := by
  induction h with
  | nil => exact .nil
  | @cons c d cs ds char _ ih =>
    rw [List.takeWhile_cons, List.takeWhile_cons, char.isWordChar_eq]
    split
    · exact .cons char ih
    · exact .nil
  | gap _ left right =>
    have hstop {b : List Char} (hb : IsBlankRun b) (es : List Char) :
        (b ++ es).takeWhile isWordChar = [] := by
      obtain ⟨c, b, rfl⟩ := List.exists_cons_of_ne_nil hb.ne_nil
      have hc : isWordChar c = false := hb.isGap c List.mem_cons_self
      rw [List.cons_append, List.takeWhile_cons_of_neg (by rw [hc]; exact Bool.false_ne_true)]
    rw [hstop left, hstop right]
    exact .nil

theorem dropSpan?_rel (h : Alike l cs ds) (hpos : l.SamePlace m n) :
    Option.Rel l.SamePlace (dropSpan? m cs) (dropSpan? n ds) := by
  induction h generalizing m n with
  | nil => exact .none
  | @cons c d cs ds char rest ih =>
    have hword := takeWhile_isWordChar_rel rest.trimStart
    have hnext : l.SamePlace (m + c.utf8Size) (n + d.utf8Size) :=
      hpos.add fun _ => char.utf8Size_eq
    simp only [dropSpan?, char.eq_sign_iff (x := ';') (by decide), spells_eq hword]
    split
    · refine .some ?_
      intro hl
      have hpart : Alike l
          (c :: (blankPrefix cs ++ (trimStart cs).takeWhile isWordChar))
          (d :: (blankPrefix ds ++ (trimStart ds).takeWhile isWordChar)) :=
        .cons char (rest.blankPrefix.append (.of_forall₂ hword))
      rw [hpos hl, hpart.byteSize hl]
    · exact ih hnext
  | @gap b b' cs ds loose left right _ ih =>
    rw [scansFor_dropSpan?.blanks_append IsDropMark.head? (by decide) left.isBlankText,
      scansFor_dropSpan?.blanks_append IsDropMark.head? (by decide) right.isBlankText]
    exact ih (Leeway.samePlace_of_spacing loose _ _)

/-! ## The comment marker -/

theorem commentSpan?_rel (h : Alike l cs ds) (hpos : l.SamePlace m n) :
    Option.Rel l.SamePlace (commentSpan? m cs) (commentSpan? n ds) := by
  induction h generalizing m n with
  | nil => exact .none
  | @cons c d cs ds char rest ih =>
    have hmarker : c :: cs = ['-', '-'] ↔ d :: ds = ['-', '-'] :=
      (Alike.cons char rest).eq_signs_iff (by decide)
    have hnext : l.SamePlace (m + c.utf8Size) (n + d.utf8Size) :=
      hpos.add fun _ => char.utf8Size_eq
    simp only [commentSpan?, hmarker]
    split
    · refine .some ?_
      intro hl
      rw [hpos hl]
    · exact ih hnext
  | @gap b b' cs ds loose left right _ ih =>
    rw [scansFor_commentSpan?.blanks_append IsCommentMark.head? (by decide) left.isBlankText,
      scansFor_commentSpan?.blanks_append IsCommentMark.head? (by decide) right.isBlankText]
    exact ih (Leeway.samePlace_of_spacing loose _ _)

/-! ## The condition that is always true -/

theorem after?_of_alike {part rest : List Char} (hpart : part ⊆ signs)
    (h : Alike l cs ds) (hcs : after? part cs = some rest) :
    ∃ rest', after? part ds = some rest' ∧ Alike l rest rest' := by
  obtain rfl := after?_eq_some.1 hcs
  clear hcs
  induction part generalizing ds with
  | nil => exact ⟨ds, rfl, h⟩
  | cons x part ih =>
    obtain ⟨hx, hpart⟩ := List.cons_subset.1 hpart
    obtain ⟨ds, rfl, hrest⟩ := h.sign_inv hx
    obtain ⟨rest', hds, hrest'⟩ := ih hpart hrest
    exact ⟨rest', by rwa [after?, if_pos rfl], hrest'⟩

theorem afterOr?_of_alike {rest : List Char} (h : Alike l cs ds)
    (hcs : afterOr? cs = some rest) :
    ∃ rest', afterOr? ds = some rest' ∧ Alike l rest rest' := by
  unfold afterOr? at hcs
  split at hcs
  next o r b cs =>
    obtain ⟨hor, hrest⟩ := Option.ite_none_right_eq_some.1 hcs
    obtain rfl := Option.some.inj hrest
    rw [Bool.and_eq_true] at hor
    have hfold := spells_iff.1 hor.1
    have ho : isBlank o = false := by
      rw [← isBlank_foldChar, (List.cons.inj hfold).1]
      decide
    have hr : isBlank r = false := by
      rw [← isBlank_foldChar, (List.cons.inj (List.cons.inj hfold).2).1]
      decide
    obtain ⟨o', ds, rfl, hcharo, h⟩ := h.cons_inv ho
    obtain ⟨r', ds, rfl, hcharr, h⟩ := h.cons_inv hr
    -- the white space behind OR may be longer in the other text, but it is not missing
    have hhead : ds.head?.any isBlank = true := by
      rw [← h.head_isBlank_eq]
      exact hor.2
    have htrim := h.trimStart
    cases ds with
    | nil => exact absurd hhead (by decide)
    | cons b' ds =>
      have hb' : isBlank b' = true := hhead
      have hspells : spells "or" [o', r'] = true := by
        rw [← spells_eq (.cons hcharo (.cons hcharr .nil))]
        exact hor.1
      rw [trimStart, List.dropWhile_cons_of_pos hor.2, trimStart,
        List.dropWhile_cons_of_pos hb'] at htrim
      exact ⟨_, if_pos (by rw [hspells, hb']; rfl), htrim⟩
  next => exact absurd hcs (by simp)

theorem afterTautology?_of_alike {rest : List Char} (h : Alike l cs ds)
    (hcs : afterTautology? cs = some rest) :
    ∃ rest', afterTautology? ds = some rest' ∧ Alike l rest rest' := by
  simp only [afterTautology?, Option.bind_eq_bind, Option.bind_eq_some_iff] at hcs ⊢
  obtain ⟨cs₁, h₁, cs₂, h₂, cs₃, h₃, cs₄, h₄, h₅⟩ := hcs
  obtain ⟨ds₁, h₁, hrest⟩ := after?_of_alike (by decide) h h₁
  obtain ⟨ds₂, h₂, hrest⟩ := afterOr?_of_alike hrest.trimStart h₂
  obtain ⟨ds₃, h₃, hrest⟩ := after?_of_alike (by decide) hrest h₃
  obtain ⟨ds₄, h₄, hrest⟩ := after?_of_alike (by decide) hrest.trimStart h₄
  obtain ⟨ds₅, h₅, hrest⟩ := after?_of_alike (by decide) hrest.trimStart h₅
  exact ⟨ds₅, ⟨ds₁, h₁, ds₂, h₂, ds₃, h₃, ds₄, h₄, h₅⟩, hrest⟩

theorem afterTautology?_eq_none_iff (h : Alike l cs ds) :
    afterTautology? cs = none ↔ afterTautology? ds = none := by
  have key {xs ys : List Char} (h : Alike l xs ys) (hxs : afterTautology? xs = none) :
      afterTautology? ys = none := by
    rw [Option.eq_none_iff_forall_ne_some]
    intro rest hrest
    obtain ⟨rest', hxs', -⟩ := afterTautology?_of_alike h.symm hrest
    rw [hxs] at hxs'
    exact absurd hxs' (by simp)
  exact ⟨key h, key h.symm⟩

theorem tautologySpan?_rel (h : Alike l cs ds) (hpos : l.SamePlace m n) :
    Option.Rel l.SamePlace (tautologySpan? m cs) (tautologySpan? n ds) := by
  induction h generalizing m n with
  | nil => exact .none
  | @cons c d cs ds char rest ih =>
    have hall : Alike l (c :: cs) (d :: ds) := .cons char rest
    have hnext : l.SamePlace (m + c.utf8Size) (n + d.utf8Size) :=
      hpos.add fun _ => char.utf8Size_eq
    rw [tautologySpan?, tautologySpan?]
    cases hcs : afterTautology? (c :: cs) with
    | none =>
      rw [(afterTautology?_eq_none_iff hall).1 hcs]
      exact ih hnext
    | some tail =>
      obtain ⟨tail', hds, htail⟩ := afterTautology?_of_alike hall hcs
      rw [hds]
      refine .some ?_
      intro hl
      rw [hpos hl, hall.byteSize hl, htail.byteSize hl]
  | @gap b b' cs ds loose left right _ ih =>
    rw [scansFor_tautologySpan?.blanks_append IsTautology.head? (by decide) left.isBlankText,
      scansFor_tautologySpan?.blanks_append IsTautology.head? (by decide) right.isBlankText]
    exact ih (Leeway.samePlace_of_spacing loose _ _)

/-! ## Findings that differ in their place -/

/-- The finding without its place. -/
def Finding.unplaced : Finding → Finding
  | .unexpectedClose _ => .unexpectedClose 0
  | .missingTableName _ => .missingTableName ⟨0, 0⟩
  | .missingColumnList _ => .missingColumnList ⟨0, 0⟩
  | .tableNotFound name _ => .tableNotFound name ⟨0, 0⟩
  | .missingGroupBy _ => .missingGroupBy ⟨0, 0⟩
  | .possibleCrossJoin _ => .possibleCrossJoin ⟨0, 0⟩
  | .unfilteredMutation operation _ => .unfilteredMutation operation ⟨0, 0⟩
  | .injectedDrop _ => .injectedDrop ⟨0, 0⟩
  | .injectedComment _ => .injectedComment ⟨0, 0⟩
  | .injectedTautology _ => .injectedTautology ⟨0, 0⟩
  | f => f

/-- The findings differ at most in their place, and if places count not at all. -/
structure Finding.Alike (l : Leeway) (f g : Finding) : Prop where
  unplaced : f.unplaced = g.unplaced
  same : l.SamePlace f g

theorem Finding.Alike.refl (l : Leeway) (f : Finding) : f.Alike l f := ⟨rfl, fun _ => rfl⟩

theorem findings_refl (l : Leeway) (fs : List Finding) : List.Forall₂ (Finding.Alike l) fs fs :=
  List.forall₂_same.2 fun f _ => .refl l f

/-! ## Parentheses -/

theorem scanParentheses_blank_append {b : List Char} (hb : IsBlankText b) (depth pos : Nat)
    (cs : List Char) :
    scanParentheses depth pos (b ++ cs) = scanParentheses depth (pos + byteSize b) cs := by
  induction b generalizing pos with
  | nil => rfl
  | cons c b ih =>
    obtain ⟨hc, hb⟩ := List.forall_mem_cons.1 hb
    have hopen : ¬ c = '(' := by
      rintro rfl
      exact absurd hc (by decide)
    have hclose : ¬ c = ')' := by
      rintro rfl
      exact absurd hc (by decide)
    rw [List.cons_append, scanParentheses_other _ _ _ hopen hclose, ih hb, byteSize_cons,
      Nat.add_assoc]

theorem scanParentheses_rel (h : Alike l cs ds) (depth : Nat) (hpos : l.SamePlace m n) :
    List.Forall₂ (Finding.Alike l) (scanParentheses depth m cs) (scanParentheses depth n ds) := by
  induction h generalizing depth m n with
  | nil => exact findings_refl l _
  | @cons c d cs ds char _ ih =>
    have hnext : l.SamePlace (m + c.utf8Size) (n + d.utf8Size) :=
      hpos.add fun _ => char.utf8Size_eq
    unfold scanParentheses
    simp only [char.eq_sign_iff (x := '(') (by decide), char.eq_sign_iff (x := ')') (by decide)]
    by_cases hopen : d = '('
    · rw [if_pos hopen, if_pos hopen]
      exact ih _ hnext
    · rw [if_neg hopen, if_neg hopen]
      by_cases hclose : d = ')'
      · rw [if_pos hclose, if_pos hclose]
        cases depth with
        | zero => exact .cons ⟨rfl, fun hl => congrArg _ (hpos hl)⟩ .nil
        | succ depth => exact ih _ hnext
      · rw [if_neg hclose, if_neg hclose]
        exact ih _ hnext
  | @gap b b' cs ds loose left right _ ih =>
    rw [scanParentheses_blank_append left.isBlankText,
      scanParentheses_blank_append right.isBlankText]
    exact ih depth (Leeway.samePlace_of_spacing loose _ _)

end QueryLint.Query
