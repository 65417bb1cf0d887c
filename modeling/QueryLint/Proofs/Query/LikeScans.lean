import QueryLint.Proofs.InStep
import QueryLint.Proofs.Query.Quiet
import QueryLint.Proofs.Text.LikeWords

/-!
# Scans of queries that look alike

Each scan of a query goes through queries that look alike in step.  Where it gives words, the lists
of words that it gives are related by `List.Forall₂ (Word.Alike l)` again; where it gives text, the
texts are `Alike`; and where it gives a span, the spans are equal if places count
(`Leeway.SamePlace`).

There is one lemma for each scan over words, and each follows the recursion of its scan or the lists
of words.  `Proofs.Query.LikeMarks` has the scans over characters.

The list between SELECT and FROM is the one thing that depends on the amount of white space: with
one blank between the two there is no list, and with two there is an empty one.  But the two are
never told apart except where grouped expressions are looked for, so the lemma about the list,
`selectList?_alike`, takes no list for an empty one.
-/

namespace QueryLint.Query

open Text

variable {l : Leeway} {ws vs : List Word} {w v : Word}

/-! ## Neighbours, pairs and stretches of text -/

/-- Words with the words after them that look alike. -/
def WordsAlike (l : Leeway) (p q : Word × List Word) : Prop :=
  p.1.Alike l q.1 ∧ List.Forall₂ (Word.Alike l) p.2 q.2

theorem next?_rel (hw : w.Alike l v) (hws : List.Forall₂ (Word.Alike l) ws vs) :
    Option.Rel (WordsAlike l) (w.next? ws) (v.next? vs) := by
  cases hws with
  | nil => exact .none
  | cons hu hrest =>
    rw [Word.next?, Word.next?, hw.after_blank_eq]
    split
    · exact .some ⟨hu, hrest⟩
    · exact .none

theorem adjacentPair?_rel (first second : String) (h : List.Forall₂ (Word.Alike l) ws vs) :
    Option.Rel (fun p q => p.1.Alike l q.1 ∧ WordsAlike l p.2 q.2)
      (adjacentPair? first second ws) (adjacentPair? first second vs) := by
  induction h with
  | nil => exact .none
  | cons hw hws ih =>
    cases hws with
    | nil => exact .none
    | cons hv hrest =>
      rw [adjacentPair?, adjacentPair?, hw.is_eq, hw.after_blank_eq, hv.is_eq]
      split
      · exact .some ⟨hw, hv, hrest⟩
      · exact ih

theorem qualifiedPairs_rel (h : List.Forall₂ (Word.Alike l) ws vs) :
    List.Forall₂ (fun p q => p.1.Alike l q.1 ∧ p.2.Alike l q.2)
      (qualifiedPairs ws) (qualifiedPairs vs) := by
  fun_induction qualifiedPairs ws generalizing vs with
  | case1 w u rest hdot ih =>
    cases h with
    | cons hw hws =>
      cases hws with
      | cons hu hrest =>
        rw [qualifiedPairs, if_pos (hw.after_dot_iff.1 hdot)]
        exact .cons ⟨hw, hu⟩ (ih hrest)
  | case2 w u rest hdot ih =>
    cases h with
    | cons hw hws =>
      cases hws with
      | cons hu hrest =>
        rw [qualifiedPairs, if_neg (mt hw.after_dot_iff.2 hdot)]
        exact ih (.cons hu hrest)
  | case3 ws hshort =>
    cases h with
    | nil => exact .nil
    | cons hw hws =>
      cases hws with
      | nil => exact .nil
      | cons => exact (hshort _ _ _ rfl).elim

theorem textUpTo_rel (closers : List String) (h : List.Forall₂ (Word.Alike l) ws vs)
    {gap gap' : List Char} (hgap : Alike l gap gap') :
    Alike l (textUpTo closers gap ws).1 (textUpTo closers gap' vs).1 ∧
      List.Forall₂ (Word.Alike l) (textUpTo closers gap ws).2 (textUpTo closers gap' vs).2 := by
  induction h generalizing gap gap' with
  | nil => exact ⟨hgap, .nil⟩
  | cons hw hws ih =>
    rw [textUpTo, textUpTo, hw.isOneOf_eq]
    split
    · exact ⟨hgap, hws⟩
    · obtain ⟨htext, hrest⟩ := ih hw.after
      exact ⟨(hgap.append (.of_forall₂ hw.text)).append htext, hrest⟩

/-! ## Words -/

theorem any_is_eq (keyword : String) (h : List.Forall₂ (Word.Alike l) ws vs) :
    ws.any (·.is keyword) = vs.any (·.is keyword) :=
  any_eq_of_forall₂ h fun _ _ hw => hw.is_eq keyword

theorem firstOf?_rel (keywords : List String) (h : List.Forall₂ (Word.Alike l) ws vs) :
    Option.Rel (Word.Alike l) (firstOf? keywords ws) (firstOf? keywords vs) :=
  find?_rel h fun _ _ hw => hw.isOneOf_eq keywords

theorem tableReferences_rel (h : List.Forall₂ (Word.Alike l) ws vs) :
    List.Forall₂ (Word.Alike l) (tableReferences ws) (tableReferences vs) := by
  fun_induction tableReferences ws generalizing vs with
  | case1 w u rest hname ih =>
    cases h with
    | cons hw hws =>
      cases hws with
      | cons hu hrest =>
        rw [hw.isOneOf_eq, hw.after_blank_eq] at hname
        rw [tableReferences, if_pos hname]
        exact .cons hu (ih hrest)
  | case2 w u rest hname ih =>
    cases h with
    | cons hw hws =>
      cases hws with
      | cons hu hrest =>
        rw [hw.isOneOf_eq, hw.after_blank_eq] at hname
        rw [tableReferences, if_neg hname]
        exact ih (.cons hu hrest)
  | case3 ws hshort =>
    cases h with
    | nil => exact .nil
    | cons hw hws =>
      cases hws with
      | nil => exact .nil
      | cons => exact (hshort _ _ _ rfl).elim

/-! ## Aggregates -/

theorem aggregateSpan?_cons (w : Word) (ws : List Word) :
    aggregateSpan? (w :: ws) =
      if w.isOneOf aggregates = true ∧ (trimStart w.after).head? = some '(' then
        some ⟨w.start, byteSize (w.text ++ blankPrefix w.after) + 1⟩
      else aggregateSpan? ws := by
  rw [aggregateSpan?]
  split
  next tail hone htrim => rw [if_pos ⟨hone, by rw [htrim]; rfl⟩]
  next hnot =>
    rw [if_neg]
    rintro ⟨hone, hparen⟩
    obtain ⟨tail, htrim⟩ := List.head?_eq_some_iff.1 hparen
    exact hnot tail hone htrim

theorem aggregateSpan?_rel (h : List.Forall₂ (Word.Alike l) ws vs) :
    Option.Rel l.SamePlace (aggregateSpan? ws) (aggregateSpan? vs) := by
  induction h with
  | nil => exact .none
  | @cons w v ws vs hw _ ih =>
    have hparen := hw.after.trimStart.head_eq_sign_iff (x := '(') (by decide)
    rw [aggregateSpan?_cons, aggregateSpan?_cons]
    simp only [hw.isOneOf_eq, hparen]
    split
    · refine .some ?_
      intro hl
      have hsize := ((Alike.of_forall₂ hw.text).append hw.after.blankPrefix).byteSize hl
      rw [hw.start hl, hsize]
    · exact ih

/-! ## The list behind SELECT -/

theorem endsBlank_cons (c : Char) (cs : List Char) :
    endsBlank (c :: cs) = if cs = [] then isBlank c else endsBlank cs := by
  cases cs <;> rfl

theorem endsBlank_blank_append {b : List Char} (hb : IsBlankRun b) (cs : List Char) :
    endsBlank (b ++ cs) = if cs = [] then true else endsBlank cs := by
  obtain ⟨hne, hblank⟩ := hb
  induction b with
  | nil => exact absurd rfl hne
  | cons c b ih =>
    obtain ⟨hc, hb⟩ := List.forall_mem_cons.1 hblank
    rw [List.cons_append, endsBlank_cons]
    by_cases hnil : b = []
    · subst hnil
      rw [List.nil_append, hc]
    · rw [if_neg fun happend => hnil (List.append_eq_nil_iff.1 happend).1]
      exact ih hnil hb

theorem endsBlank_eq {cs ds : List Char} (h : Alike l cs ds) : endsBlank cs = endsBlank ds := by
  induction h with
  | nil => rfl
  | cons char rest ih =>
    rw [endsBlank_cons, endsBlank_cons, char.isBlank_eq, ih]
    simp only [rest.eq_nil_iff]
  | gap _ left right rest ih =>
    rw [endsBlank_blank_append left, endsBlank_blank_append right, ih]
    simp only [rest.eq_nil_iff]

theorem textBeforeFrom?_rel (h : List.Forall₂ (Word.Alike l) ws vs) {gap gap' : List Char}
    (hgap : Alike l gap gap') :
    Option.Rel (Alike l) (textBeforeFrom? gap ws) (textBeforeFrom? gap' vs) := by
  induction h generalizing gap gap' with
  | nil => exact .none
  | cons hw _ ih =>
    rw [textBeforeFrom?, textBeforeFrom?, endsBlank_eq hgap, hw.is_eq]
    split
    · exact .some hgap
    · exact map_rel (ih hw.after) fun _ _ htext =>
        (hgap.append (.of_forall₂ hw.text)).append htext

theorem firstSelect?_rel (h : List.Forall₂ (Word.Alike l) ws vs) :
    Option.Rel (WordsAlike l) (firstSelect? ws) (firstSelect? vs) := by
  induction h with
  | nil => exact .none
  | cons hw hws ih =>
    rw [firstSelect?, firstSelect?, hw.is_eq, hw.beforeBlank_eq]
    split
    · exact .some ⟨hw, hws⟩
    · exact ih

theorem getD_nil_alike {o p : Option (List Char)} (h : Option.Rel (Alike l) o p) :
    Alike l (o.getD []) (p.getD []) := by
  cases h with
  | none => exact .nil
  | some htext => exact htext

/-- Behind a SELECT without a FROM that closes the list there is at most an empty list. -/
theorem getD_listBehind? (select : Word) (ws : List Word) :
    (listBehind? select ws).getD [] =
      trimEnd ((textBeforeFrom? (trimStart select.after) ws).getD []) := by
  rw [listBehind?]
  split
  next text htext =>
    rw [htext]
    rfl
  next htext =>
    rw [htext]
    split
    · split <;> rfl
    · rfl

/-- The lists behind SELECT look alike, where no list counts as an empty one. -/
theorem selectList?_alike {cs ds : List Char} (h : Alike l cs ds) :
    Alike l ((selectList? cs).getD []) ((selectList? ds).getD []) := by
  have hselect := firstSelect?_rel h.wordsOf
  rw [selectList?, selectList?]
  generalize firstSelect? (wordsOf cs) = o, firstSelect? (wordsOf ds) = p at hselect ⊢
  cases hselect with
  | none => exact .nil
  | some hwords =>
    obtain ⟨hw, hws⟩ := hwords
    have htext := textBeforeFrom?_rel hws hw.after.trimStart
    simp only [getD_listBehind?]
    exact (getD_nil_alike htext).trimEnd

/-! ## Joins -/

/-- The uses of JOIN differ only within the leeway. -/
structure JoinUse.Alike (l : Leeway) (u t : JoinUse) : Prop where
  join : u.join.Alike l t.join
  last : u.last.Alike l t.last
  conditioned : u.conditioned = t.conditioned

theorem passAs_rel (hw : w.Alike l v) (h : List.Forall₂ (Word.Alike l) ws vs) :
    WordsAlike l (passAs w ws) (passAs v vs) := by
  have hnext := next?_rel hw h
  rw [passAs, passAs]
  generalize w.next? ws = o, v.next? vs = p at hnext ⊢
  cases hnext with
  | none => exact ⟨hw, h⟩
  | some hwords =>
    simp only [hwords.1.is_eq]
    split
    · exact hwords
    · exact ⟨hw, h⟩

theorem readTwo_rel (hw : w.Alike l v) (h : List.Forall₂ (Word.Alike l) ws vs) :
    (readTwo w ws).1.Alike l (readTwo v vs).1 ∧
      (readTwo w ws).2.1 = (readTwo v vs).2.1 ∧
        List.Forall₂ (Word.Alike l) (readTwo w ws).2.2 (readTwo v vs).2.2 := by
  have hnext := next?_rel hw h
  rw [readTwo, readTwo]
  generalize w.next? ws = o, v.next? vs = p at hnext ⊢
  cases hnext with
  | none => exact ⟨hw, rfl, h⟩
  | @some a b hwords =>
    obtain ⟨hfirst, hrest⟩ := hwords
    have hsecond := next?_rel hfirst hrest
    simp only
    generalize a.1.next? a.2 = o, b.1.next? b.2 = p at hsecond ⊢
    cases hsecond with
    | none => exact ⟨hfirst, hfirst.is_eq "on", hrest⟩
    | some hwords =>
      exact ⟨hwords.1, congrArg₂ or (hfirst.is_eq "on") (hwords.1.is_eq "on"), hwords.2⟩

theorem readJoin_rel (hw : w.Alike l v) (h : List.Forall₂ (Word.Alike l) ws vs) :
    (readJoin w ws).1.Alike l (readJoin v vs).1 ∧
      (readJoin w ws).2.1 = (readJoin v vs).2.1 ∧
        List.Forall₂ (Word.Alike l) (readJoin w ws).2.2 (readJoin v vs).2.2 := by
  obtain ⟨hlast, hrest⟩ := passAs_rel hw h
  rw [readJoin_eq, readJoin_eq]
  exact readTwo_rel hlast hrest

/-- What one word does to the uses of JOIN. -/
theorem joinUses_cons (w : Word) (ws : List Word) :
    joinUses (w :: ws) =
      match w.next? ws with
      | some (table, rest) =>
        if w.is "join" then
          ⟨w, (readJoin table rest).1, (readJoin table rest).2.1⟩ ::
            joinUses (readJoin table rest).2.2
        else joinUses ws
      | none => joinUses ws := by
  rw [joinUses]
  split
  next table rest hnext => simp only [hnext]
  next hnext => simp only [hnext]

theorem joinUses_rel (h : List.Forall₂ (Word.Alike l) ws vs) :
    List.Forall₂ (JoinUse.Alike l) (joinUses ws) (joinUses vs) := by
  fun_induction joinUses ws generalizing vs with
  | case1 =>
    cases h with
    | nil =>
      rw [joinUses]
      exact .nil
  | case2 w ws table rest hnext hjoin _ ih =>
    cases h with
    | @cons _ v _ vs hw hws =>
      have hrel := next?_rel hw hws
      rw [joinUses_cons]
      rw [hnext] at hrel
      generalize v.next? vs = p at hrel ⊢
      cases hrel with
      | some hwords =>
        -- both uses take the same number of words, so the scans go on in step
        obtain ⟨hlast, hon, hleft⟩ := readJoin_rel hwords.1 hwords.2
        simp only
        rw [if_pos (by rwa [← hw.is_eq])]
        exact .cons ⟨hw, hlast, hon⟩ (ih hleft)
  | case3 w ws table rest hnext hjoin ih =>
    cases h with
    | cons hw hws =>
      rw [hw.is_eq, Bool.not_eq_true] at hjoin
      rw [joinUses_cons_of_not hjoin]
      exact ih hws
  | case4 w ws hnext ih =>
    cases h with
    | @cons _ v _ vs hw hws =>
      have hrel := next?_rel hw hws
      rw [joinUses_cons]
      rw [hnext] at hrel
      generalize v.next? vs = p at hrel ⊢
      cases hrel with
      | none => exact ih hws

theorem crossJoinSpan?_rel (h : List.Forall₂ (Word.Alike l) ws vs) :
    Option.Rel l.SamePlace (crossJoinSpan? ws) (crossJoinSpan? vs) := by
  have hfirst := find?_rel (p := fun u => !u.conditioned) (q := fun u => !u.conditioned)
    (joinUses_rel h) fun _ _ hu => congrArg not hu.conditioned
  refine map_rel hfirst fun u t hu hl => ?_
  rw [hu.join.span hl, hu.last.span hl]

theorem conditionBodies_rel (h : List.Forall₂ (Word.Alike l) ws vs) :
    List.Forall₂ (Alike l) (conditionBodies ws) (conditionBodies vs) := by
  fun_induction conditionBodies ws generalizing vs with
  | case1 =>
    cases h with
    | nil =>
      rw [conditionBodies]
      exact .nil
  | case2 w ws hbody _ ih =>
    cases h with
    | cons hw hws =>
      obtain ⟨htext, hrest⟩ := textUpTo_rel ["group", "order", "limit"] hws hw.after.trimStart
      rw [hw.isOneOf_eq, hw.beforeBlank_eq] at hbody
      rw [conditionBodies, if_pos hbody]
      exact .cons htext (ih hrest)
  | case3 w ws hbody ih =>
    cases h with
    | cons hw hws =>
      rw [hw.isOneOf_eq, hw.beforeBlank_eq] at hbody
      rw [conditionBodies, if_neg hbody]
      exact ih hws

theorem startsComparison_of_alike {cs ds : List Char} (h : Alike l cs ds)
    (hcs : startsComparison cs = true) : startsComparison ds = true := by
  unfold startsComparison at hcs
  split at hcs
  · obtain ⟨zs, rfl, -⟩ := h.sign_inv (by decide)
    rfl
  · obtain ⟨zs, rfl, -⟩ := h.sign_inv (by decide)
    rfl
  · obtain ⟨zs, rfl, -⟩ := h.sign_inv (by decide)
    rfl
  · obtain ⟨zs, rfl, hrest⟩ := h.sign_inv (by decide)
    obtain ⟨zs, rfl, -⟩ := hrest.sign_inv (by decide)
    rfl
  · exact absurd hcs Bool.false_ne_true

theorem startsComparison_eq {cs ds : List Char} (h : Alike l cs ds) :
    startsComparison cs = startsComparison ds := by
  rw [Bool.eq_iff_iff]
  exact ⟨startsComparison_of_alike h, startsComparison_of_alike h.symm⟩

theorem isUnqualified_eq {body body' : List Char} (h : Alike l body body') :
    isUnqualified body = isUnqualified body' := by
  have hpairs := isEmpty_eq_of_forall₂ (qualifiedPairs_rel h.wordsOf)
  have hsigns := any_eq_of_forall₂
    (p := fun w : Word => startsComparison (trimStart w.after))
    (q := fun w : Word => startsComparison (trimStart w.after)) h.wordsOf
    fun _ _ hw => startsComparison_eq hw.after.trimStart
  simp only [isUnqualified, hpairs, hsigns]

end QueryLint.Query
