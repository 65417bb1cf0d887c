import QueryLint.Proofs.Query.Columns
import QueryLint.Proofs.Query.TableNames
import QueryLint.Proofs.Text.Scanning

/-!
# Names of columns

A column with its table is a word, a dot and a word, with nothing in between.  Of three words that
are joined by dots the first two are a pair and the third one is alone, since a word belongs to one
pair at most.  `IsDotted` says what a pair is, and a scan of the text tells which pairs there are.

The pattern for this (`qualifiedName`) does not ask for the start of a word.  It does not need to:
where it matches within a word it also matches at its start, and each search begins where a word
begins or behind one.

* `IsDotted`: a table and a column in a text.
* `reads_qualifiedName`: the pattern finds the pairs of the scan.
* `check_columnNotFound`: which columns are not found.
-/

namespace QueryLint.Query

open Text
open Schema (Model Table)

/-- A word, a dot and a word: a table and a column. -/
inductive IsDotted : List Char → List Char → List Char → Part × Part → Prop
  | mk {before table column after : List Char}
      (htable : IsRun before table (['.'] ++ (column ++ after)))
      (hcolumn : IsRun (before ++ table ++ ['.']) column after) :
      IsDotted before (table ++ ['.'] ++ column) after
        (⟨before, table⟩, ⟨before ++ table ++ ['.'], column⟩)

theorem isGap_dot : IsGap ['.'] := isGap_of_isPlainGap (by decide)

/-! ## The words of a text -/

section Words

variable {before gap : List Char} {w : Word} {ws : List Word}

/-- A word begins a pair if a dot joins it to the next one. -/
theorem canTake_isDotted_iff (h : Word.Follow before gap (w :: ws)) :
    Taking.CanTake IsDotted (before ++ gap) (w.text ++ (w.after ++ Word.textOf ws)) ↔
      w.after = ['.'] ∧ ws ≠ [] := by
  constructor
  · rintro ⟨taken, behind, p, heq, hpair⟩
    cases hpair with
    | @mk table column behind htable hcolumn =>
      rw [List.append_assoc, List.append_assoc] at heq
      obtain ⟨hword, hafter⟩ := h.isRun.eq_of_append_eq htable heq
      rw [← hword] at hcolumn
      obtain ⟨v, vs, rfl, hdot, -⟩ := h.next.exists_of_append_eq isGap_dot hcolumn hafter
      exact ⟨hdot.symm, List.cons_ne_nil _ _⟩
  · rintro ⟨hdot, hne⟩
    obtain ⟨v, vs, rfl⟩ := List.exists_cons_of_ne_nil hne
    have hword := h.isRun
    have hnext := h.next.isRun
    rw [hdot, Word.textOf_cons, List.append_assoc] at hword
    rw [hdot] at hnext
    refine ⟨_, _, _, ?_, .mk hword hnext⟩
    simp only [hdot, Word.textOf_cons, List.append_assoc]

/-- The words of a text are gone through in the same way as the text. -/
theorem exists_scan_isDotted (h : Word.Follow before gap ws) :
    ∃ pairs, Scan IsDotted before (gap ++ Word.textOf ws) pairs ∧
      (qualifiedPairs ws).map namesOf = pairs.map fun p => (p.1.name, p.2.name) := by
  fun_induction qualifiedPairs ws generalizing before gap with
  | case1 w v rest hdot ih =>
    have hword := h.isRun
    have hnext := h.next.isRun
    have hlater := h.next.next
    rw [hdot, Word.textOf_cons, List.append_assoc] at hword
    rw [hdot] at hnext hlater
    obtain ⟨pairs, hscan, hnames⟩ := ih hlater
    refine ⟨_, h.scan_take ?_ (.mk hword hnext) (by simpa only [List.append_assoc] using hscan), ?_⟩
    · simp only [hdot, Word.textOf_cons, List.append_assoc]
    · rw [List.map_cons, List.map_cons, hnames]
      rfl
  | case2 w v rest hdot ih =>
    obtain ⟨pairs, hscan, hnames⟩ := ih h.next
    have hnot := mt (canTake_isDotted_iff h).1 fun hboth => hdot hboth.1
    exact ⟨pairs, h.scan_pass hnot hscan, hnames⟩
  | case3 ws hshort =>
    refine ⟨[], ?_, rfl⟩
    cases ws with
    | nil => exact h.scan_nil
    | cons w ws =>
      obtain rfl : ws = [] := by
        by_contra hne
        obtain ⟨v, vs, rfl⟩ := List.exists_cons_of_ne_nil hne
        exact hshort w v vs rfl
      exact h.scan_pass (mt (canTake_isDotted_iff h).1 fun hboth => hboth.2 rfl) h.next.scan_nil

end Words

/-! ## The pattern -/

/-- A word that is kept, a dot, and a word that is kept. -/
def qualifiedName : Pattern :=
  .both (.group (.several isWordChar))
    (.both (.one (· == '.')) (.group (.several isWordChar)))

theorem run_qualifiedName {before taken after : List Char} {p : Part × Part}
    (h : IsDotted before taken after p) :
    qualifiedName.run some ⟨before, taken ++ after, []⟩ =
      some ⟨before ++ taken, after, [p.1, p.2]⟩ := by
  cases h with
  | @mk table column after htable hcolumn =>
    rw [qualifiedName, Pattern.run_both, Pattern.run_group, List.append_assoc, List.append_assoc]
    refine Pattern.run_several_of_head? htable.isWordText.ne_nil htable.isWordText.isWordChar
      htable.after ?_
    rw [Pattern.run_both, Place.keep, List.singleton_append, Pattern.run_one_cons rfl,
      Pattern.run_group]
    refine Pattern.run_several_of_head? hcolumn.isWordText.ne_nil hcolumn.isWordText.isWordChar
      hcolumn.after ?_
    simp [Place.keep]

theorem exists_of_run_qualifiedName {before rest : List Char} {y : Place}
    (h : qualifiedName.run some ⟨before, rest, []⟩ = some y) :
    ∃ table column after, rest = table ++ (['.'] ++ (column ++ after)) ∧
      IsRun [] table (['.'] ++ (column ++ after)) ∧ IsRun ['.'] column after := by
  rw [qualifiedName, Pattern.run_both, Pattern.run_group] at h
  obtain ⟨table, rest, rfl, hne, htable, h⟩ := Pattern.exists_of_run_several h
  rw [Pattern.run_both] at h
  obtain ⟨c, rest, rfl, hc, h⟩ := Pattern.exists_of_run_one h
  obtain rfl := beq_iff_eq.1 hc
  rw [Pattern.run_group] at h
  obtain ⟨chars, rest, rfl, hchars, hword, -⟩ := Pattern.exists_of_run_several h
  obtain ⟨d, ds, rfl⟩ := List.exists_cons_of_ne_nil hchars
  obtain ⟨column, after, hsplit, hcolumn⟩ :=
    exists_isRun isGap_dot.getLast? (hword d List.mem_cons_self)
  refine ⟨table, column, after, by rw [← hsplit]; rfl,
    ⟨⟨hne, htable⟩, isGap_nil.getLast?, ?_⟩, hcolumn⟩
  rintro e ⟨⟩
  exact isGap_dot '.' List.mem_cons_self

theorem reads_qualifiedName : qualifiedName.Reads IsDotted fun p => [p.1, p.2] where
  run_eq := run_qualifiedName
  head h := by
    obtain ⟨table, column, after, rfl, htable, -⟩ := exists_of_run_qualifiedName h
    obtain ⟨c, cs, rfl⟩ := List.exists_cons_of_ne_nil htable.isWordText.ne_nil
    exact ⟨c, rfl, htable.isWordText.isWordChar c List.mem_cons_self⟩
  canTake {before front back after y} hword hback h := by
    obtain ⟨table, column, behind, heq, htable, hcolumn⟩ := exists_of_run_qualifiedName h
    -- the pattern goes on to the end of the word
    have hrest : IsRun [] back after :=
      ⟨⟨hback, fun c hc => hword.isWordText.isWordChar c (List.mem_append_right _ hc)⟩,
        isGap_nil.getLast?, hword.after⟩
    obtain ⟨rfl, rfl⟩ := hrest.eq_of_append_eq htable heq
    exact ⟨_, _, _, by simp, .mk hword (hcolumn.append (List.cons_ne_nil _ _))⟩

/-- The pairs of a text. -/
theorem exists_pairs (text : List Char) :
    ∃ pairs, ((∀ pairs', Scan IsDotted [] text pairs' ↔ pairs' = pairs) ∧
      ∀ found, qualifiedName.Finds [] text found ↔ found = pairs.map fun p => [p.1, p.2]) ∧
        (qualifiedPairs (wordsOf text)).map namesOf = pairs.map fun p => (p.1.name, p.2.name) := by
  have hinjective : Function.Injective fun p : Part × Part => [p.1, p.2] := by
    rintro ⟨t, c⟩ ⟨t', c'⟩ h
    simpa using h
  obtain ⟨pairs, hscan, hnames⟩ := exists_scan_isDotted (Word.follow_wordsOf text)
  rw [← (remain_wordsOf text).text] at hscan
  exact ⟨pairs, reads_qualifiedName.scan_iff_and_finds_iff hinjective hscan, hnames⟩

/-- There is a word, a dot and a word somewhere in the text. -/
def HasDotted (text : List Char) : Prop :=
  ∃ front taken after p, text = front ++ (taken ++ after) ∧ IsDotted front taken after p

/-- Where there is a pair, pairs are found. -/
theorem hasDotted_iff_qualifiedPairs (text : List Char) :
    HasDotted text ↔ qualifiedPairs (wordsOf text) ≠ [] := by
  obtain ⟨pairs, ⟨hscan, -⟩, hnames⟩ := exists_pairs text
  have hscan := (hscan pairs).2 rfl
  have hnil : qualifiedPairs (wordsOf text) ≠ [] ↔ pairs ≠ [] := by
    rw [ne_eq, ne_eq, ← List.map_eq_nil_iff (f := namesOf), hnames, List.map_eq_nil_iff]
  rw [hnil]
  constructor
  · rintro ⟨front, taken, after, p, rfl, hp⟩ rfl
    cases hp with
    | @mk table column after htable hcolumn =>
      refine hscan.not_canTake_of_nil (by simp only [List.append_assoc]) htable ?_
      exact ⟨_, _, _, by simp only [List.append_assoc], .mk htable hcolumn⟩
  · intro hne
    obtain ⟨p, ps, rfl⟩ := List.exists_cons_of_ne_nil hne
    obtain ⟨front, taken, after, heq, hp⟩ := hscan.exists_of_cons
    exact ⟨front, taken, after, p, heq, hp⟩

/-- The pattern is found where there is a pair. -/
theorem isSome_find?_qualifiedName (text : List Char) :
    (qualifiedName.find? [] text).isSome = true ↔ HasDotted text := by
  obtain ⟨pairs, ⟨-, hfinds⟩, hnames⟩ := exists_pairs text
  have hfinds := (hfinds _).2 rfl
  have hnil : HasDotted text ↔ pairs ≠ [] := by
    rw [hasDotted_iff_qualifiedPairs, ne_eq, ne_eq, ← List.map_eq_nil_iff (f := namesOf), hnames,
      List.map_eq_nil_iff]
  rw [hnil]
  cases pairs with
  | nil =>
    cases hfinds with
    | done h => simp [h]
  | cons p ps =>
    generalize hfound : (p :: ps).map (fun p => [p.1, p.2]) = found at hfinds
    cases hfinds with
    | done => cases hfound
    | next h => simp [h]

/-! ## Columns that are not found -/

/-- There is no word in white space around a star. -/
theorem wordsOf_of_trim_eq_star {list : List Char} (h : trim list = ['*']) : wordsOf list = [] := by
  have hstar : IsGap ['*'] := isGap_of_isPlainGap (by decide)
  have hgap : IsGap list := by
    rw [← blankPrefix_append_trim_append_blankSuffix list, h]
    refine List.forall_mem_append.2 ⟨List.forall_mem_append.2 ⟨?_, hstar⟩, ?_⟩
    · exact (isBlankText_blankPrefix list).isGap
    · exact fun c hc => isWordChar_of_isBlank (List.mem_rtakeWhile_imp hc)
  have hwords : wordsOf (list ++ Word.textOf []) = [] := wordsOf_append_textOf hgap (.nil _)
  rwa [Word.textOf_nil, List.append_nil] at hwords

/-- A table has no column if none of its columns has this name, whatever the case of letters. -/
theorem not_hasColumn_eq_all (t : Table) (name : String) :
    (!t.hasColumn name) = t.columnNames.all fun key => asciiFold key ≠ asciiFold name := by
  rw [Table.hasColumn, Table.column?, OrderedMap.find?, Option.isSome_map, List.isSome_find?,
    List.not_any_eq_all_not, Table.columnNames, OrderedMap.keys, List.all_map]
  refine congrArg (List.all t.columns.entries) (funext fun e => ?_)
  rw [Function.comp_apply, sameIgnoringCase, decide_not, beq_eq_decide]

theorem filter_findings_columnNotFound (m : Model) (query : List Char) :
    (findings (some m) query).filter (fun f => f.kind = .columnNotFound) =
      unknownColumns m query := by
  have htables : (unknownTables m query).filter (fun f => f.kind = .columnNotFound) = [] := by
    refine List.filter_eq_nil_iff.2 fun f hf => ?_
    obtain ⟨w, -, rfl⟩ := List.mem_map.1 hf
    exact of_decide_eq_false rfl
  have hcolumns : (unknownColumns m query).filter (fun f => f.kind = .columnNotFound) =
      unknownColumns m query := by
    refine List.filter_eq_self.2 fun f hf => ?_
    obtain ⟨table, column, rfl⟩ := exists_of_mem_unknownColumns hf
    rfl
  rw [filter_findings_kind_eq (by decide), referenceFindings, List.filter_append, htables, hcolumns,
    List.nil_append]

/-- The columns that are not found are among the pairs in the list behind SELECT. -/
theorem unknownColumns_eq_map (m : Model) (query : List Char) :
    unknownColumns m query =
      ((((selectList? query).elim [] fun list => qualifiedPairs (wordsOf list)).map namesOf).filter
        fun n => lacksColumn m n.1 n.2).map fun n => .columnNotFound n.1 n.2 := by
  have hpairs (list : List Char) :
      ((qualifiedPairs (wordsOf list)).filter fun p => lacksColumn m p.1.name p.2.name).map
          (fun p => Finding.columnNotFound p.1.name p.2.name) =
        (((qualifiedPairs (wordsOf list)).map namesOf).filter fun n => lacksColumn m n.1 n.2).map
          fun n => .columnNotFound n.1 n.2 := by
    rw [List.filter_map, List.map_map]
    rfl
  rw [unknownColumns]
  cases selectList? query with
  | none => rfl
  | some list =>
    rw [Option.elim_some, ← hpairs]
    by_cases hstar : trim list = ['*']
    · simp [wordsOf_of_trim_eq_star hstar, qualifiedPairs]
    · simp only [if_neg hstar]

/-- The columns that are not found are, in order and with repetitions, the pairs in the list behind
SELECT of which the schema has the table but in it no such column, whatever the case of letters.
What the pairs of a text are is left to a scan with one outcome; they are what is read off the
words, and what the pattern finds.  There are none in a star. -/
theorem check_columnNotFound :
    ∃ pairsIn : List Char → List (Part × Part),
      (∀ text, (∀ pairs, Scan IsDotted [] text pairs ↔ pairs = pairsIn text) ∧
        (∀ found, qualifiedName.Finds [] text found ↔
          found = (pairsIn text).map fun p => [p.1, p.2]) ∧
        (qualifiedPairs (wordsOf text)).map namesOf =
          (pairsIn text).map fun p => (p.1.name, p.2.name)) ∧
      pairsIn ['*'] = [] ∧
      ∀ (m : Model) (query : String),
        (check (some m) query).filter (·.kind = .columnNotFound) =
          (((selectList? (trim query.toList)).elim [] pairsIn).filter fun p =>
            (m.table? p.1.name).any fun t =>
              t.columnNames.all fun key => asciiFold key ≠ asciiFold p.2.name).map fun p =>
                ⟨.columnNotFound, .error,
                  "Column '" ++ p.2.name ++ "' not found in table '" ++ p.1.name ++ "'",
                  none, none⟩ := by
  choose pairsIn hpairs hnames using exists_pairs
  refine ⟨pairsIn, fun text => ⟨(hpairs text).1, (hpairs text).2, hnames text⟩, ?_,
    fun m query => ?_⟩
  · have hstar := hnames ['*']
    rw [wordsOf_of_trim_eq_star (by decide), qualifiedPairs, List.map_nil, eq_comm,
      List.map_eq_nil_iff] at hstar
    · exact hstar
    · exact fun w v rest h => absurd h (by simp)
  · have hall : ((selectList? (trim query.toList)).elim [] fun list =>
        qualifiedPairs (wordsOf list)).map namesOf =
          ((selectList? (trim query.toList)).elim [] pairsIn).map fun p =>
            (p.1.name, p.2.name) := by
      cases selectList? (trim query.toList) with
      | none => rfl
      | some list => exact hnames list
    rw [filter_check (some m) (fun k => k = .columnNotFound), filter_findings_columnNotFound,
      unknownColumns_eq_map, hall, List.filter_map, List.map_map, complaints, List.map_map]
    simp only [Function.comp_def, lacksColumn_eq_any, not_hasColumn_eq_all]
    rfl

/-- A word belongs to one pair at most. -/
example : (qualifiedPairs (wordsOf "a.b.c, d . e".toList)).map namesOf = [("a", "b")] := by
  decide +kernel

end QueryLint.Query
