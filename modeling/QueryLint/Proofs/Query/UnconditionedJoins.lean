import QueryLint.Proofs.Query.TableNames
import QueryLint.Proofs.Text.KeywordPatterns

/-!
# Joins without conditions

Behind a JOIN and its table an AS is passed over, and then up to two words are read: the alias and
what should be an ON, or the ON and a word of the condition.  Each of them has to follow with only
white space in between; if one does not, nothing more is read.  What has been read for a JOIN is
not looked at again, so a JOIN in place of an alias is none.

`IsOptional` says of a part of a text that it is read if it can be, and `IsJoin` puts a JOIN
together from such parts.  The scan of the query leaves a list of joins, and the first one without
ON is complained about.

* `IsOptional`, `IsJoin`: what is read for a JOIN.
* `reads_joinTarget`: the pattern finds the joins of the scan.
* `exists_scan_isJoin`: so do the words.
* `check_possibleCrossJoin`: which JOIN is complained about.
-/

namespace QueryLint.Query

open Text
open Schema (Model)

/-! ## What is read for a JOIN -/

/-- Behind `before` the next word is read if it has the property, with the white space in front of
it; otherwise nothing is read. -/
inductive IsOptional (P : List Char → Prop) (before : List Char) :
    List Char → List Char → Option Part → Prop
  | taken {blanks word after : List Char} (h : IsNext before blanks word after) (hword : P word) :
      IsOptional P before (blanks ++ word) after (some ⟨before ++ blanks, word⟩)
  | left {after : List Char} (h : ∀ blanks word behind, after = blanks ++ (word ++ behind) →
      IsNext before blanks word behind → ¬P word) : IsOptional P before [] after none

/-- A JOIN with its table, and the words that are read behind them. -/
structure JoinReading where
  /-- All that is read, from the JOIN on. -/
  whole : Part
  table : Part
  words : List Part
  deriving DecidableEq, Repr

namespace JoinReading

/-- One of the words is ON in some letter case. -/
def conditioned (u : JoinReading) : Bool :=
  u.words.any fun w => w.text.map Char.toLower = "on".toList

/-- The parts that a match keeps. -/
def parts (u : JoinReading) : List Part := u.table :: (u.words ++ [u.whole])

end JoinReading

/-- JOIN, white space and a table, and then, if they follow, an AS and up to two words. -/
inductive IsJoin : List Char → List Char → List Char → JoinReading → Prop
  | mk {before keyword blanks table marker second third after : List Char} {m v u : Option Part}
      (hkeyword : IsOneOf ["join"] keyword)
      (hrun : IsRun before keyword (blanks ++ (table ++ (marker ++ (second ++ (third ++ after))))))
      (htable : IsNext (before ++ keyword) blanks table (marker ++ (second ++ (third ++ after))))
      (hmarker : IsOptional (IsOneOf ["as"]) (before ++ keyword ++ blanks ++ table) marker
        (second ++ (third ++ after)) m)
      (hsecond : IsOptional (fun _ => True) (before ++ keyword ++ blanks ++ table ++ marker) second
        (third ++ after) v)
      (hthird : IsOptional (fun _ => True)
        (before ++ keyword ++ blanks ++ table ++ marker ++ second) third after u) :
      IsJoin before (keyword ++ blanks ++ table ++ marker ++ second ++ third) after
        ⟨⟨before, keyword ++ blanks ++ table ++ marker ++ second ++ third⟩,
          ⟨before ++ keyword ++ blanks, table⟩, v.toList ++ u.toList⟩

theorem exists_isOptional (P : List Char → Prop) (before rest : List Char) :
    ∃ taken after u, rest = taken ++ after ∧ IsOptional P before taken after u := by
  by_cases h : ∀ blanks word behind, rest = blanks ++ (word ++ behind) →
      IsNext before blanks word behind → ¬P word
  · exact ⟨[], rest, none, rfl, .left h⟩
  · simp only [not_forall, not_not] at h
    obtain ⟨blanks, word, behind, rfl, hnext, hword⟩ := h
    exact ⟨blanks ++ word, behind, _, (List.append_assoc ..).symm, .taken hnext hword⟩

/-- A table is all that a JOIN needs. -/
theorem canTake_isJoin {before keyword blanks table rest : List Char}
    (hkeyword : IsOneOf ["join"] keyword) (hrun : IsRun before keyword (blanks ++ (table ++ rest)))
    (htable : IsNext (before ++ keyword) blanks table rest) :
    Taking.CanTake IsJoin before (keyword ++ (blanks ++ (table ++ rest))) := by
  obtain ⟨marker, rest, m, rfl, hmarker⟩ := exists_isOptional (IsOneOf ["as"])
    (before ++ keyword ++ blanks ++ table) rest
  obtain ⟨second, rest, v, rfl, hsecond⟩ := exists_isOptional (fun _ => True)
    (before ++ keyword ++ blanks ++ table ++ marker) rest
  obtain ⟨third, after, u, rfl, hthird⟩ := exists_isOptional (fun _ => True)
    (before ++ keyword ++ blanks ++ table ++ marker ++ second) rest
  exact ⟨_, after, _, by simp only [List.append_assoc],
    .mk hkeyword hrun htable hmarker hsecond hthird⟩

theorem exists_of_isJoin {before taken after : List Char} {u : JoinReading}
    (h : IsJoin before taken after u) :
    ∃ keyword blanks table rest, taken ++ after = keyword ++ (blanks ++ (table ++ rest)) ∧
      IsOneOf ["join"] keyword ∧ IsRun before keyword (blanks ++ (table ++ rest)) ∧
        IsNext (before ++ keyword) blanks table rest := by
  cases h with
  | mk hkeyword hrun htable =>
    exact ⟨_, _, _, _, by simp only [List.append_assoc], hkeyword, hrun, htable⟩

/-! ## The words of a query -/

section Words

variable {before gap : List Char} {w last : Word} {ws : List Word}

/-- The next word if it passes a test, the last word that has been read then, and the words that
are left. -/
def readIf (test : Word → Bool) (last : Word) (ws : List Word) : Option Word × Word × List Word :=
  match last.next? ws with
  | some (v, rest) => if test v then (some v, v, rest) else (none, last, ws)
  | none => (none, last, ws)

theorem passAs_eq_readIf (table : Word) (ws : List Word) :
    passAs table ws = (readIf (·.is "as") table ws).2 := by
  rw [passAs, readIf]
  cases table.next? ws with
  | none => rfl
  | some found =>
    by_cases has : found.1.is "as" = true
    · simp only [if_pos has]
    · simp only [if_neg has]

/-- If there is no second word, there is no third one. -/
theorem readTwo_eq_readIf (last : Word) (ws : List Word) :
    readTwo last ws =
      let v := readIf (fun _ => true) last ws
      let u := readIf (fun _ => true) v.2.1 v.2.2
      (u.2.1, v.1.any (·.is "on") || u.1.any (·.is "on"), u.2.2) := by
  simp only [readTwo, readIf, if_true]
  cases hv : last.next? ws with
  | none =>
    -- both words are looked for at the same place
    simp [hv]
  | some found =>
    obtain ⟨v, rest⟩ := found
    cases hu : v.next? rest with
    | none => simp [hu]
    | some found => simp [hu]

/-- The words up to `last` have been read, and the words `ws` follow. -/
def HasRead (before : List Char) (last : Word) (ws : List Word) : Prop :=
  ∃ front gap, before = front ++ gap ++ last.text ∧ Word.Follow front gap (last :: ws)

theorem HasRead.follow (h : HasRead before last ws) : Word.Follow before last.after ws := by
  obtain ⟨front, gap, rfl, h⟩ := h
  exact h.next

theorem HasRead.end_eq (h : HasRead before last ws) :
    last.start + byteSize last.text = byteSize before := by
  obtain ⟨front, gap, rfl, h⟩ := h
  rw [h.start_eq, ← byteSize_append]

/-- The next word in the text is the next one of the words. -/
theorem HasRead.isNext_iff (h : HasRead before last ws) {blanks word behind : List Char} :
    last.after ++ Word.textOf ws = blanks ++ (word ++ behind) ∧ IsNext before blanks word behind ↔
      ∃ v rest, last.next? ws = some (v, rest) ∧ blanks = last.after ∧ word = v.text ∧
        behind = v.after ++ Word.textOf rest := by
  obtain ⟨front, gap, rfl, h⟩ := h
  constructor
  · rintro ⟨heq, hnext⟩
    obtain ⟨v, rest, rfl, rfl, rfl, rfl⟩ := h.exists_of_isNext heq hnext
    exact ⟨v, rest, next?_eq_some.2 ⟨rfl, hnext.isBlankText⟩, rfl, rfl, rfl⟩
  · rintro ⟨v, rest, hnext, rfl, rfl, rfl⟩
    obtain ⟨rfl, hblank⟩ := next?_eq_some.1 hnext
    exact ⟨by rw [Word.textOf_cons, List.append_assoc], h.isNext hblank⟩

/-- Behind the next word, it has been read as well. -/
theorem HasRead.next {v : Word} {rest : List Word} (h : HasRead before last ws)
    (hnext : last.next? ws = some (v, rest)) : HasRead (before ++ last.after ++ v.text) v rest := by
  obtain ⟨rfl, -⟩ := next?_eq_some.1 hnext
  exact ⟨before, last.after, rfl, h.follow⟩

/-- From the words the same is read as from the text. -/
theorem HasRead.exists_isOptional (h : HasRead before last ws) (P : List Char → Prop)
    (test : Word → Bool) (hP : ∀ v : Word, P v.text ↔ test v = true) :
    ∃ taken v,
      IsOptional P before taken
        ((readIf test last ws).2.1.after ++ Word.textOf (readIf test last ws).2.2) v ∧
      last.after ++ Word.textOf ws =
        taken ++ ((readIf test last ws).2.1.after ++ Word.textOf (readIf test last ws).2.2) ∧
      HasRead (before ++ taken) (readIf test last ws).2.1 (readIf test last ws).2.2 ∧
      v.map Part.text = (readIf test last ws).1.map Word.text := by
  have hleft (hnone : ∀ v rest, last.next? ws = some (v, rest) → test v = false) :
      IsOptional P before [] (last.after ++ Word.textOf ws) none := by
    refine .left fun blanks word behind heq hnext hword => ?_
    obtain ⟨v, rest, hread, -, rfl, -⟩ := h.isNext_iff.1 ⟨heq, hnext⟩
    have htest := (hP v).1 hword
    rw [hnone v rest hread] at htest
    cases htest
  rw [readIf]
  cases hread : last.next? ws with
  | none =>
    refine ⟨[], none, hleft fun v rest h => ?_, rfl, by rwa [List.append_nil], rfl⟩
    cases hread.symm.trans h
  | some found =>
    obtain ⟨v, rest⟩ := found
    by_cases hv : test v = true
    · simp only [if_pos hv]
      obtain ⟨heq, hnext⟩ := h.isNext_iff.2 ⟨v, rest, hread, rfl, rfl, rfl⟩
      have hafter := h.next hread
      rw [List.append_assoc] at hafter
      exact ⟨_, _, .taken hnext ((hP v).2 hv), by rw [heq, List.append_assoc], hafter, rfl⟩
    · simp only [if_neg hv]
      refine ⟨[], none, hleft fun u rest' h => ?_, rfl, by rwa [List.append_nil], rfl⟩
      obtain ⟨rfl, -⟩ := Prod.mk.inj (Option.some.inj (hread.symm.trans h))
      exact Bool.eq_false_of_not_eq_true hv

/-- An ON is told in the same way from a word. -/
theorem isOn_iff (w : Word) : w.is "on" = true ↔ w.text.map Char.toLower = "on".toList := by
  rw [Word.is, spells_iff]
  exact map_foldChar_eq_iff (by decide)

theorem any_isOn_eq {v : Option Part} {w : Option Word} (h : v.map Part.text = w.map Word.text) :
    w.any (·.is "on") = v.toList.any fun p => p.text.map Char.toLower = "on".toList := by
  cases w with
  | none =>
    rw [Option.map_eq_none_iff.1 h]
    rfl
  | some w =>
    obtain ⟨p, rfl, htext⟩ := Option.map_eq_some_iff.1 h
    rw [Option.any_some, Bool.eq_iff_iff, isOn_iff, ← htext]
    simp

/-- What is read from the words for a JOIN. -/
theorem exists_isJoin {table : Word} {rest : List Word} (h : Word.Follow before gap (w :: ws))
    (hnext : w.next? ws = some (table, rest)) (hjoin : w.is "join" = true) :
    ∃ taken u,
      IsJoin (before ++ gap) taken
        ((readJoin table rest).1.after ++ Word.textOf (readJoin table rest).2.2) u ∧
      w.text ++ (w.after ++ Word.textOf ws) =
        taken ++ ((readJoin table rest).1.after ++ Word.textOf (readJoin table rest).2.2) ∧
      HasRead (before ++ gap ++ taken) (readJoin table rest).1 (readJoin table rest).2.2 ∧
      u.whole = ⟨before ++ gap, taken⟩ ∧ u.conditioned = (readJoin table rest).2.1 := by
  have hread : HasRead (before ++ gap ++ w.text) w ws := ⟨before, gap, rfl, h⟩
  obtain ⟨heq, htable⟩ := hread.isNext_iff.2 ⟨table, rest, hnext, rfl, rfl, rfl⟩
  have hrun := h.isRun
  rw [heq] at hrun
  obtain ⟨marker, m, hmarker, hmarkereq, hread, -⟩ :=
    (hread.next hnext).exists_isOptional (IsOneOf ["as"]) (·.is "as") fun _ => is_iff_isOneOf.symm
  obtain ⟨second, v, hsecond, hsecondeq, hread, hv⟩ :=
    hread.exists_isOptional (fun _ => True) (fun _ => true) fun _ => iff_of_true trivial rfl
  obtain ⟨third, u, hthird, hthirdeq, hread, hu⟩ :=
    hread.exists_isOptional (fun _ => True) (fun _ => true) fun _ => iff_of_true trivial rfl
  -- what is left behind one part begins with the next one
  rw [hmarkereq, hsecondeq, hthirdeq] at hrun htable heq
  rw [hsecondeq, hthirdeq] at hmarker
  rw [hthirdeq] at hsecond
  rw [readJoin_eq, passAs_eq_readIf, readTwo_eq_readIf]
  refine ⟨_, _, .mk (is_iff_isOneOf.1 hjoin) hrun htable hmarker hsecond hthird, ?_, ?_, rfl, ?_⟩
  · rw [heq]
    simp only [List.append_assoc]
  · simpa only [List.append_assoc] using hread
  · simp only [any_isOn_eq hv, any_isOn_eq hu, JoinReading.conditioned, List.any_append]

/-- With a word a JOIN starts if it is JOIN, and another word follows. -/
theorem canTake_isJoin_iff (h : Word.Follow before gap (w :: ws)) :
    Taking.CanTake IsJoin (before ++ gap) (w.text ++ (w.after ++ Word.textOf ws)) ↔
      w.is "join" = true ∧ ∃ table rest, w.next? ws = some (table, rest) := by
  have hread : HasRead (before ++ gap ++ w.text) w ws := ⟨before, gap, rfl, h⟩
  constructor
  · rintro ⟨taken, after, u, heq, hjoin⟩
    obtain ⟨keyword, blanks, table, rest, hsplit, hkeyword, hrun, htable⟩ := exists_of_isJoin hjoin
    rw [hsplit] at heq
    obtain ⟨rfl, hafter⟩ := h.isRun.eq_of_append_eq hrun heq
    obtain ⟨v, vs, hnext, -⟩ := hread.isNext_iff.1 ⟨hafter, htable⟩
    exact ⟨is_iff_isOneOf.2 hkeyword, v, vs, hnext⟩
  · rintro ⟨hjoin, table, rest, hnext⟩
    obtain ⟨taken, u, htake, heq, -⟩ := exists_isJoin h hnext hjoin
    exact ⟨taken, _, u, heq, htake⟩

/-- What has been read reaches from the JOIN to the last word. -/
theorem span_upTo_eq {taken : List Char} {rest : List Word} (h : Word.Follow before gap (w :: ws))
    (hread : HasRead (before ++ gap ++ taken) last rest) :
    w.span.upTo last.span = .ofParts (before ++ gap) taken := by
  have hend := hread.end_eq
  rw [byteSize_append] at hend
  rw [Word.span, Word.span, Span.upTo, Span.ofParts, h.start_eq]
  simp only [Span.mk.injEq, true_and]
  omega

/-- The words of a query are gone through in the same way as the query. -/
theorem exists_scan_isJoin (h : Word.Follow before gap ws) :
    ∃ uses, Scan IsJoin before (gap ++ Word.textOf ws) uses ∧
      (joinUses ws).map (fun u => (u.join.span.upTo u.last.span, u.conditioned)) =
        uses.map fun u => (u.whole.span, u.conditioned) := by
  fun_induction joinUses ws generalizing before gap with
  | case1 => exact ⟨[], h.scan_nil, rfl⟩
  | case2 w ws table rest hnext hjoin _ ih =>
    obtain ⟨taken, u, htake, heq, hread, hwhole, hconditioned⟩ := exists_isJoin h hnext hjoin
    obtain ⟨uses, hscan, huses⟩ := ih hread.follow
    refine ⟨u :: uses, h.scan_take heq htake hscan, ?_⟩
    rw [List.map_cons, List.map_cons, huses, span_upTo_eq h hread, hwhole, hconditioned]
    rfl
  | case3 w ws table rest hnext hjoin ih =>
    obtain ⟨uses, hscan, huses⟩ := ih h.next
    exact ⟨uses, h.scan_pass (mt (canTake_isJoin_iff h).1 fun hboth => hjoin hboth.1) hscan, huses⟩
  | case4 w ws hnext ih =>
    obtain ⟨uses, hscan, huses⟩ := ih h.next
    refine ⟨uses, h.scan_pass (mt (canTake_isJoin_iff h).1 ?_) hscan, huses⟩
    rintro ⟨-, table, rest, hsome⟩
    cases hnext.symm.trans hsome

end Words

/-! ## The pattern -/

/-- White space and an AS. -/
def blanksAndAs : Pattern := .both (.several isBlank) (.both (.anyOf ["as"]) .boundary)

/-- JOIN, white space and a table, and what may follow. -/
def joinTarget : Pattern :=
  .group (.wordThen ["join"] (.both blanksAndName
    (.both (.optional blanksAndAs) (.both (.optional blanksAndName) (.optional blanksAndName)))))

/-- The pattern matches the next word if it has the property, and keeps these parts. -/
structure ReadsNext (a : Pattern) (P : List Char → Prop) (keeps : Part → List Part) : Prop where
  run_eq : ∀ {k : Place → Option Place} {before blanks word after kept y},
    IsNext before blanks word after → P word →
      k ⟨before ++ blanks ++ word, after, kept ++ keeps ⟨before ++ blanks, word⟩⟩ = some y →
        a.run k ⟨before, blanks ++ (word ++ after), kept⟩ = some y
  exists_of_run : ∀ {k : Place → Option Place} {before rest kept y},
    a.run k ⟨before, rest, kept⟩ = some y →
      ∃ blanks word after, rest = blanks ++ (word ++ after) ∧ IsNext before blanks word after ∧
        P word

section Pattern

variable {before rest taken after : List Char} {kept : List Part} {y : Place}
  {k : Place → Option Place}

theorem readsNext_blanksAndName : ReadsNext blanksAndName (fun _ => True) fun p => [p] where
  run_eq hnext _ h := run_blanksAndName hnext.ne_nil hnext.isBlankText hnext.isRun h
  exists_of_run h := by
    obtain ⟨blanks, name, after, rfl, hne, hblanks, hrun⟩ := exists_of_run_blanksAndName h
    exact ⟨blanks, name, after, rfl, ⟨hne, hblanks, hrun⟩, trivial⟩

theorem readsNext_blanksAndAs : ReadsNext blanksAndAs (IsOneOf ["as"]) fun _ => [] where
  run_eq hnext hword h := by
    rw [List.append_nil] at h
    refine (Pattern.run_blanks_anyOf_eq_some (isWordText_of_all (by decide))
      Pattern.stops_boundary).2 ⟨_, _, _, rfl, hnext, hword, ?_⟩
    rw [Pattern.run_boundary_eq_some, Pattern.isBoundary_back hnext.isRun.isWordText]
    exact ⟨hnext.isRun.after, h⟩
  exists_of_run h := by
    obtain ⟨blanks, word, after, heq, hnext, hword, -⟩ :=
      (Pattern.run_blanks_anyOf_eq_some (isWordText_of_all (by decide)) Pattern.stops_boundary).1 h
    exact ⟨blanks, word, after, heq, hnext, hword⟩

/-- What may be left out is matched if it can be read. -/
theorem ReadsNext.run_optional {a : Pattern} {P : List Char → Prop} {keeps : Part → List Part}
    {u : Option Part} (h : ReadsNext a P keeps) (hoptional : IsOptional P before taken after u)
    (hk : k ⟨before ++ taken, after, kept ++ u.toList.flatMap keeps⟩ = some y) :
    (Pattern.optional a).run k ⟨before, taken ++ after, kept⟩ = some y := by
  rw [Pattern.run_optional]
  cases hoptional with
  | @taken blanks word after hnext hword =>
    rw [Option.toList_some, List.flatMap_singleton, ← List.append_assoc] at hk
    rw [List.append_assoc, h.run_eq hnext hword hk, Option.some_or]
  | left hleft =>
    have hnone : a.run k ⟨before, after, kept⟩ = none := by
      rw [Option.eq_none_iff_forall_ne_some]
      intro z hz
      obtain ⟨blanks, word, behind, heq, hnext, hword⟩ := h.exists_of_run hz
      exact hleft blanks word behind heq hnext hword
    rw [List.nil_append, hnone, Option.none_or]
    simpa using hk

theorem stops_blanksAndName {a : Pattern} : Pattern.Stops ((Pattern.both blanksAndName a).run k) :=
  Pattern.stops_several_isBlank (a := .both (.group (.several isWordChar)) a)

/-- The pattern matches a JOIN, and keeps what is read for it. -/
theorem run_joinTarget {u : JoinReading} (h : IsJoin before taken after u) :
    joinTarget.run some ⟨before, taken ++ after, []⟩ = some ⟨before ++ taken, after, u.parts⟩ := by
  cases h with
  | @mk keyword blanks table marker second third _ _ _ _ hkeyword hrun htable hmarker hsecond
      hthird =>
    have hsplit : keyword ++ blanks ++ table ++ marker ++ second ++ third ++ after =
        keyword ++ (blanks ++ (table ++ (marker ++ (second ++ (third ++ after))))) := by
      simp only [List.append_assoc]
    rw [hsplit, joinTarget, Pattern.run_group,
      Pattern.run_wordThen_eq_some (isWordText_of_all (by decide)) stops_blanksAndName]
    refine ⟨keyword, _, rfl, hrun, hkeyword, ?_⟩
    refine readsNext_blanksAndName.run_eq htable trivial ?_
    refine readsNext_blanksAndAs.run_optional hmarker ?_
    refine readsNext_blanksAndName.run_optional hsecond ?_
    refine readsNext_blanksAndName.run_optional hthird ?_
    simp [Place.keep, JoinReading.parts, List.append_assoc]

/-- The pattern matches only where a JOIN can be taken. -/
theorem canTake_of_run_joinTarget (h : joinTarget.run some ⟨before, rest, []⟩ = some y) :
    (∃ word after, rest = word ++ after ∧ IsRun before word after) ∧
      Taking.CanTake IsJoin before rest := by
  rw [joinTarget, Pattern.run_group,
    Pattern.run_wordThen_eq_some (isWordText_of_all (by decide)) stops_blanksAndName] at h
  obtain ⟨word, after, rfl, hrun, hword, h⟩ := h
  obtain ⟨blanks, table, behind, rfl, hnext, -⟩ := readsNext_blanksAndName.exists_of_run h
  exact ⟨⟨word, _, rfl, hrun⟩, canTake_isJoin hword hrun hnext⟩

theorem parts_injective : Function.Injective JoinReading.parts := by
  intro u v h
  obtain ⟨htable, hbehind⟩ := List.cons.inj h
  obtain ⟨hwords, hwhole⟩ := List.append_inj' hbehind rfl
  obtain ⟨uwhole, utable, uwords⟩ := u
  obtain ⟨vwhole, vtable, vwords⟩ := v
  obtain rfl : utable = vtable := htable
  obtain rfl : uwords = vwords := hwords
  obtain rfl : uwhole = vwhole := List.singleton_inj.1 hwhole
  rfl

/-- The pattern finds the joins of the scan. -/
theorem reads_joinTarget : joinTarget.Reads IsJoin JoinReading.parts :=
  Pattern.reads_of_run run_joinTarget canTake_of_run_joinTarget

end Pattern

/-! ## What is reported -/

/-- The joins of a query are the outcome of one scan, and what is read off its words. -/
theorem exists_joins (query : List Char) :
    ∃ uses : List JoinReading,
      ((∀ uses', Scan IsJoin [] query uses' ↔ uses' = uses) ∧
        ∀ found, joinTarget.Finds [] query found ↔ found = uses.map JoinReading.parts) ∧
      crossJoinSpan? (wordsOf query) =
        (uses.find? fun u => !u.conditioned).map fun u => u.whole.span := by
  obtain ⟨uses, hscan, huses⟩ := exists_scan_isJoin (Word.follow_wordsOf query)
  rw [← (remain_wordsOf query).text] at hscan
  refine ⟨uses, reads_joinTarget.scan_iff_and_finds_iff parts_injective hscan, ?_⟩
  have hfind := congrArg (fun l => (l.find? fun p : Span × Bool => !p.2).map Prod.fst) huses
  simp only [List.find?_map, Option.map_map, Function.comp_def] at hfind
  exact hfind

theorem filter_joinFindings_cross (query : List Char) :
    (joinFindings query).filter (fun f => f.kind = .possibleCrossJoin) =
      ((crossJoinSpan? (wordsOf query)).map Finding.possibleCrossJoin).toList := by
  have hcross : ((crossJoinSpan? (wordsOf query)).map Finding.possibleCrossJoin).toList.filter
      (fun f => f.kind = .possibleCrossJoin) =
        ((crossJoinSpan? (wordsOf query)).map Finding.possibleCrossJoin).toList := by
    cases crossJoinSpan? (wordsOf query) <;> rfl
  rw [joinFindings, List.filter_append, hcross]
  split
  all_goals exact List.append_nil _

/-- A cross join is complained about, once, if one of the joins in the trimmed query has no ON, and
the complaint is about all that has been read for the first one of these.  There is one list of
joins that the scan leads to, and they are what the pattern finds. -/
theorem check_possibleCrossJoin (query : String) :
    ∃ uses : List JoinReading,
      ((∀ uses', Scan IsJoin [] (trim query.toList) uses' ↔ uses' = uses) ∧
        ∀ found, joinTarget.Finds [] (trim query.toList) found ↔
          found = uses.map JoinReading.parts) ∧
      ∀ schema : Option Model,
        (check schema query).filter (·.kind = .possibleCrossJoin) =
          ((uses.find? fun u => !u.conditioned).map fun u =>
            ⟨.possibleCrossJoin, .warning,
              "JOIN without ON condition may produce an unintended cross join",
              some (u.whole.span.shifted (byteSize (blankPrefix query.toList))),
              some "add an ON clause relating the joined tables"⟩).toList := by
  obtain ⟨uses, hscan, hspan⟩ := exists_joins (trim query.toList)
  refine ⟨uses, hscan, fun schema => ?_⟩
  rw [filter_check_join (by decide), filter_joinFindings_cross, hspan]
  cases uses.find? fun u => !u.conditioned <;> rfl

/-- A JOIN in place of an alias has been read, so it is not complained about. -/
example : ((joinUses (wordsOf "a JOIN b JOIN c JOIN d ON e".toList)).map fun u =>
    (u.join.start, u.conditioned)) = [(2, false), (16, true)] := by decide +kernel

end QueryLint.Query
