import QueryLint.Proofs.Query.Independence
import QueryLint.Proofs.Query.References
import QueryLint.Proofs.Query.Scans
import QueryLint.Proofs.Schema.Tables
import QueryLint.Proofs.Text.Patterns

/-!
# Names of tables

A name of a table is the word behind FROM or JOIN, with nothing but white space in between.  A word
that is a name is no keyword as well, so of three words in a row that could each be a keyword the
second one is a name and the third one is not.  `ReferenceScan` tells how the names are found in the
text itself, from word to word; it does not depend on how the text is read.

The same names are what a pattern finds (`tableReference`).  Where the pattern leaves a choice there
is none: a keyword is followed by white space, white space by a word, and a word by anything but a
word character.

* `Introduces`: a keyword and the name behind it.
* `finds_tableReference`: the pattern finds what the scan finds.
* `check_tableNotFound`: which tables are not found.
-/

namespace QueryLint.Query

open Text
open Schema (Model)

/-! ## The scan -/

/-- Behind `before` there is FROM or JOIN in some letter case, then white space, then the word
`name`, and then `after`. -/
structure Introduces (before keyword blanks name after : List Char) : Prop where
  isKeyword : keyword.map Char.toLower = "from".toList ∨ keyword.map Char.toLower = "join".toList
  isRun : IsRun before keyword (blanks ++ (name ++ after))
  ne_nil : blanks ≠ []
  isBlankText : IsBlankText blanks
  name_isRun : IsRun (before ++ keyword ++ blanks) name after

/-- The names of tables in a text, which stands behind `before`: the words are gone through from the
left, and behind a name the scan goes on with the next word. -/
inductive ReferenceScan : List Char → List Char → List Part → Prop
  /-- There is no word left. -/
  | done {before rest : List Char} (h : IsGap rest) : ReferenceScan before rest []
  /-- The next word introduces no name. -/
  | pass {before gap word after : List Char} {refs : List Part} (hgap : IsGap gap)
      (hword : IsRun (before ++ gap) word after)
      (h : ∀ blanks name behind, after = blanks ++ (name ++ behind) →
        ¬Introduces (before ++ gap) word blanks name behind)
      (later : ReferenceScan (before ++ gap ++ word) after refs) :
      ReferenceScan before (gap ++ (word ++ after)) refs
  /-- The next word introduces the word behind it. -/
  | take {before gap keyword blanks name after : List Char} {refs : List Part} (hgap : IsGap gap)
      (h : Introduces (before ++ gap) keyword blanks name after)
      (later : ReferenceScan (before ++ gap ++ keyword ++ blanks ++ name) after refs) :
      ReferenceScan before (gap ++ (keyword ++ (blanks ++ (name ++ after))))
        (⟨before ++ gap ++ keyword ++ blanks, name⟩ :: refs)

/-! ## Keywords -/

theorem map_foldChar_eq_from_iff {word : List Char} :
    word.map foldChar = "from".toList ↔ word.map Char.toLower = "from".toList :=
  map_foldChar_eq_iff (by decide)

theorem map_foldChar_eq_join_iff {word : List Char} :
    word.map foldChar = "join".toList ↔ word.map Char.toLower = "join".toList :=
  map_foldChar_eq_iff (by decide)

theorem isOneOf_from_join_iff {w : Word} :
    w.isOneOf ["from", "join"] = true ↔
      w.text.map Char.toLower = "from".toList ∨ w.text.map Char.toLower = "join".toList := by
  rw [← map_foldChar_eq_from_iff, ← map_foldChar_eq_join_iff, ← spells_iff, ← spells_iff]
  simp [Word.isOneOf, Word.is]

/-! ## The words of a query -/

variable {before gap : List Char} {w v : Word} {ws : List Word} {pos : Nat}

/-- A keyword with a word behind it introduces this word, if there is only white space between. -/
theorem introduces_of_isOneOf (hlaid : Word.Laid pos (w :: v :: ws))
    (hrun : IsRun (before ++ gap) w.text (w.after ++ Word.textOf (v :: ws)))
    (h : (w.isOneOf ["from", "join"] && w.after.all isBlank) = true) :
    Introduces (before ++ gap) w.text w.after v.text (v.after ++ Word.textOf ws) := by
  rw [Bool.and_eq_true, List.all_eq_true, isOneOf_from_join_iff] at h
  rw [Word.textOf_cons, List.append_assoc] at hrun
  refine ⟨h.1, hrun, ?_, h.2, hlaid.isRun_next _⟩
  cases hlaid with
  | cons _ _ _ apart _ => exact apart (List.cons_ne_nil _ _)

/-- Only such a keyword introduces a name, and the name is the word behind it. -/
theorem isOneOf_of_introduces {front blanks name behind : List Char}
    (hlaid : Word.Laid pos (w :: v :: ws))
    (heq : w.after ++ Word.textOf (v :: ws) = blanks ++ (name ++ behind))
    (h : Introduces front w.text blanks name behind) :
    (w.isOneOf ["from", "join"] && w.after.all isBlank) = true := by
  have hnext : IsRun w.after v.text (v.after ++ Word.textOf ws) :=
    (hlaid.isRun_next []).of_append
  have hafter : IsGap w.after := by
    cases hlaid with
    | cons _ _ hafter _ _ => exact hafter
  rw [Word.textOf_cons, List.append_assoc] at heq
  obtain ⟨rfl, -, -⟩ := IsRun.unique hafter h.isBlankText.isGap hnext
    h.name_isRun.of_append heq
  rw [Bool.and_eq_true, List.all_eq_true, isOneOf_from_join_iff]
  exact ⟨h.isKeyword, h.isBlankText⟩

/-- The words of a query are gone through in the same way as its text. -/
theorem exists_referenceScan (before : List Char) (hgap : IsGap gap)
    (hlaid : Word.Laid (byteSize (before ++ gap)) ws)
    (hfirst : ∀ w vs, ws = w :: vs → IsRun (before ++ gap) w.text (w.after ++ Word.textOf vs)) :
    ∃ refs, ReferenceScan before (gap ++ Word.textOf ws) refs ∧
      (tableReferences ws).map (fun w => (w.name, w.span)) = refs.map fun r => (r.name, r.span) := by
  fun_induction tableReferences ws generalizing before gap with
  | case1 w v rest hkeyword ih =>
    have hrun := hfirst w (v :: rest) rfl
    have hintroduces := introduces_of_isOneOf hlaid hrun hkeyword
    obtain ⟨-, hlaid'⟩ := hlaid.behind
    obtain ⟨hafter, hlater⟩ := hlaid'.behind
    obtain ⟨refs, hscan, hrefs⟩ := ih _ hafter hlater fun u us hus => by
      subst hus
      exact hlaid'.isRun_next _
    refine ⟨⟨before ++ gap ++ w.text ++ w.after, v.text⟩ :: refs, ?_, ?_⟩
    · have htake := ReferenceScan.take hgap hintroduces hscan
      simpa only [Word.textOf_cons, List.append_assoc] using htake
    · have hstart : v.span = Span.ofParts (before ++ gap ++ w.text ++ w.after) v.text := by
        cases hlaid' with
        | cons start _ _ _ _ => rw [Word.span, start, Span.ofParts]
      rw [List.map_cons, List.map_cons, hrefs, hstart]
      rfl
  | case2 w v rest hkeyword ih =>
    have hrun := hfirst w (v :: rest) rfl
    obtain ⟨hafter, hlater⟩ := hlaid.behind
    obtain ⟨refs, hscan, hrefs⟩ := ih _ hafter hlater fun u us hus => by
      obtain ⟨rfl, rfl⟩ := List.cons.inj hus
      exact hlaid.isRun_next _
    refine ⟨refs, ?_, hrefs⟩
    have hpass := ReferenceScan.pass hgap hrun
      (fun blanks name behind heq h => hkeyword (isOneOf_of_introduces hlaid heq h)) hscan
    rwa [Word.textOf_cons, List.append_assoc]
  | case3 ws hshort =>
    refine ⟨[], ?_, rfl⟩
    cases ws with
    | nil => exact .done (by rwa [Word.textOf_nil, List.append_nil])
    | cons w ws =>
      cases ws with
      | cons v rest => exact absurd rfl (hshort w v rest)
      | nil =>
        obtain ⟨hafter, -⟩ := hlaid.behind
        have hrun := hfirst w [] rfl
        rw [Word.textOf_nil, List.append_nil] at hrun
        rw [Word.textOf_cons, Word.textOf_nil, List.append_nil]
        refine .pass hgap hrun (fun blanks name behind heq h => ?_) (.done hafter)
        exact hafter.ne_append h.name_isRun.isWordText heq

/-! ## The pattern -/

/-- White space, and a word that is kept. -/
def blanksAndName : Pattern :=
  .both (.several isBlank) (.group (.several isWordChar))

/-- FROM or JOIN as the start of a word, white space, and a word that is kept. -/
def tableReference : Pattern :=
  .both .boundary
    (.both (.either (.keyword "from".toList) (.keyword "join".toList)) blanksAndName)

section Pattern

variable {keyword blanks name after rest : List Char} {kept : List Part} {y : Place}
  {k : Place → Option Place}

theorem run_blanksAndName (hne : blanks ≠ []) (hblanks : IsBlankText blanks)
    (hname : IsRun (before ++ blanks) name after)
    (h : k ⟨before ++ blanks ++ name, after, kept ++ [⟨before ++ blanks, name⟩]⟩ = some y) :
    blanksAndName.run k ⟨before, blanks ++ (name ++ after), kept⟩ = some y := by
  rw [blanksAndName, Pattern.run_both]
  refine Pattern.run_several_of_head? hne hblanks (isBlank_head?_append hname.isWordText) ?_
  rw [Pattern.run_group]
  refine Pattern.run_several_of_head? hname.isWordText.ne_nil hname.isWordText.isWordChar
    hname.after ?_
  simpa [Place.keep] using h

theorem exists_of_run_blanksAndName (h : blanksAndName.run k ⟨before, rest, kept⟩ = some y) :
    ∃ blanks name after, rest = blanks ++ (name ++ after) ∧ blanks ≠ [] ∧ IsBlankText blanks ∧
      IsRun (before ++ blanks) name after := by
  rw [blanksAndName, Pattern.run_both] at h
  obtain ⟨blanks, rest, rfl, hne, hblanks, h⟩ := Pattern.exists_of_run_several h
  rw [Pattern.run_group] at h
  obtain ⟨chars, rest, rfl, hchars, hword, -⟩ := Pattern.exists_of_run_several h
  obtain ⟨c, cs, rfl⟩ := List.exists_cons_of_ne_nil hchars
  obtain ⟨name, after, hsplit, hname⟩ :=
    exists_isRun (isWordChar_getLast?_append hne hblanks) (hword c List.mem_cons_self)
  exact ⟨blanks, name, after, by rw [← hsplit, List.cons_append], hne, hblanks, hname⟩

/-- The pattern matches where a name is introduced, and keeps the name. -/
theorem run_tableReference (h : Introduces before keyword blanks name after) :
    tableReference.run some ⟨before, keyword ++ (blanks ++ (name ++ after)), []⟩ =
      some ⟨before ++ keyword ++ blanks ++ name, after, [⟨before ++ keyword ++ blanks, name⟩]⟩ := by
  have hrest : blanksAndName.run some ⟨before ++ keyword, blanks ++ (name ++ after), []⟩ =
      some ⟨before ++ keyword ++ blanks ++ name, after, [⟨before ++ keyword ++ blanks, name⟩]⟩ :=
    run_blanksAndName h.ne_nil h.isBlankText h.name_isRun rfl
  rw [tableReference, Pattern.run_both, Pattern.run_boundary_eq_some]
  refine ⟨(Pattern.isBoundary_front h.isRun.isWordText).2 h.isRun.before, ?_⟩
  rw [Pattern.run_both, Pattern.run_either]
  rcases h.isKeyword with hfrom | hjoin
  · rw [Pattern.run_keyword_append (map_foldChar_eq_from_iff.2 hfrom), hrest, Option.some_or]
  · have hword := map_foldChar_eq_join_iff.2 hjoin
    have hlength : keyword.length = "from".toList.length := by
      have hsame := congrArg List.length hjoin
      rwa [List.length_map] at hsame
    have hfrom : keyword.map foldChar ≠ "from".toList := by
      rw [hword]
      decide
    rw [Pattern.run_keyword_append hword, hrest, Pattern.run_keyword_eq_none hlength hfrom,
      Option.none_or]

/-- It matches nowhere else. -/
theorem introduces_of_run (h : tableReference.run some ⟨before, rest, []⟩ = some y) :
    ∃ keyword blanks name after, rest = keyword ++ (blanks ++ (name ++ after)) ∧
      Introduces before keyword blanks name after := by
  rw [tableReference, Pattern.run_both, Pattern.run_boundary_eq_some, Pattern.run_both,
    Pattern.run_either, Option.or_eq_some_iff] at h
  obtain ⟨hboundary, h⟩ := h
  have hkeyword : ∃ keyword rest', rest = keyword ++ rest' ∧
      (keyword.map foldChar = "from".toList ∨ keyword.map foldChar = "join".toList) ∧
      blanksAndName.run some ⟨before ++ keyword, rest', []⟩ = some y := by
    rcases h with h | ⟨-, h⟩
    · obtain ⟨keyword, rest', hsplit, hword, h⟩ := Pattern.exists_of_run_keyword h
      exact ⟨keyword, rest', hsplit, Or.inl hword, h⟩
    · obtain ⟨keyword, rest', hsplit, hword, h⟩ := Pattern.exists_of_run_keyword h
      exact ⟨keyword, rest', hsplit, Or.inr hword, h⟩
  obtain ⟨keyword, rest', rfl, hword, hbehind⟩ := hkeyword
  obtain ⟨blanks, name, after, rfl, hne, hblanks, hname⟩ := exists_of_run_blanksAndName hbehind
  have htext : IsWordText keyword := by
    rcases hword with hword | hword
    · exact Pattern.isWordText_of_map_foldChar hword (Pattern.isWordText_keyword (by decide))
    · exact Pattern.isWordText_of_map_foldChar hword (Pattern.isWordText_keyword (by decide))
  rw [map_foldChar_eq_from_iff, map_foldChar_eq_join_iff] at hword
  exact ⟨keyword, blanks, name, after, rfl, hword,
    ⟨htext, (Pattern.isBoundary_front htext).1 hboundary, isWordChar_head?_append hne hblanks⟩,
    hne, hblanks, hname⟩

/-- If the pattern matches before the end of the next word, it matches at that word. -/
theorem introduces_of_run_append {word front : List Char} (hgap : IsGap gap)
    (hword : IsRun (before ++ gap) word after) (heq : gap ++ (word ++ after) = front ++ rest)
    (hlength : front.length < (gap ++ word).length)
    (h : tableReference.run some ⟨before ++ front, rest, []⟩ = some y) :
    front = gap ∧ ∃ blanks name behind, after = blanks ++ (name ++ behind) ∧
      Introduces (before ++ gap) word blanks name behind := by
  obtain ⟨keyword, blanks, name, behind, rfl, hintroduces⟩ := introduces_of_run h
  rcases IsRun.cases hgap hword.of_append hintroduces.isRun.of_append heq with
    ⟨rfl, rfl, rfl⟩ | ⟨front', rfl, -⟩
  · exact ⟨rfl, blanks, name, behind, rfl, hintroduces⟩
  · rw [← List.append_assoc, List.length_append] at hlength
    omega

/-- The pattern finds what the scan finds. -/
theorem finds_tableReference {refs : List Part} (h : ReferenceScan before rest refs) :
    tableReference.Finds before rest (refs.map fun r => [r]) := by
  induction h with
  | done h =>
    refine .done (Pattern.find?_eq_none fun front rest' hsplit => ?_)
    rw [Option.eq_none_iff_forall_ne_some]
    intro y hy
    obtain ⟨keyword, blanks, name, behind, rfl, hintroduces⟩ := introduces_of_run hy
    exact h.ne_append hintroduces.isRun.isWordText hsplit
  | @pass before gap word after refs hgap hword h _ ih =>
    have hskip : tableReference.find? before (gap ++ word ++ after) =
        tableReference.find? (before ++ (gap ++ word)) after := by
      refine Pattern.find?_append fun front rest' heq hlength => ?_
      rw [Option.eq_none_iff_forall_ne_some]
      intro y hy
      rw [List.append_assoc] at heq
      obtain ⟨-, blanks, name, behind, hafter, hintroduces⟩ :=
        introduces_of_run_append hgap hword heq hlength hy
      exact h blanks name behind hafter hintroduces
    rw [List.append_assoc, ← List.append_assoc before] at hskip
    exact ih.of_find?_eq hskip
  | @take before gap keyword blanks name after refs hgap h _ ih =>
    have hskip : tableReference.find? before (gap ++ (keyword ++ (blanks ++ (name ++ after)))) =
        tableReference.find? (before ++ gap) (keyword ++ (blanks ++ (name ++ after))) := by
      refine Pattern.find?_append fun front rest' heq hlength => ?_
      rw [Option.eq_none_iff_forall_ne_some]
      intro y hy
      have hlonger : front.length < (gap ++ keyword).length := by
        rw [List.length_append]
        omega
      obtain ⟨rfl, -⟩ := introduces_of_run_append hgap h.isRun heq hlonger hy
      exact absurd hlength (Nat.lt_irrefl _)
    have hfind := Pattern.find?_of_run (run_tableReference h)
    rw [← hskip] at hfind
    exact .next hfind ih

end Pattern

/-! ## Tables that are not found -/

theorem exists_of_mem_unknownColumns {m : Model} {query : List Char} {f : Finding}
    (h : f ∈ unknownColumns m query) : ∃ table column, f = .columnNotFound table column := by
  rw [unknownColumns] at h
  split at h
  · cases h
  · split at h
    · cases h
    · obtain ⟨p, -, rfl⟩ := List.mem_map.1 h
      exact ⟨_, _, rfl⟩

theorem filter_findings_tableNotFound (m : Model) (query : List Char) :
    (findings (some m) query).filter (fun f => f.kind = .tableNotFound) =
      unknownTables m query := by
  have htables : (unknownTables m query).filter (fun f => f.kind = .tableNotFound) =
      unknownTables m query := by
    refine List.filter_eq_self.2 fun f hf => ?_
    obtain ⟨w, -, rfl⟩ := List.mem_map.1 hf
    rfl
  have hcolumns : (unknownColumns m query).filter (fun f => f.kind = .tableNotFound) = [] := by
    refine List.filter_eq_nil_iff.2 fun f hf => ?_
    obtain ⟨table, column, rfl⟩ := exists_of_mem_unknownColumns hf
    exact of_decide_eq_false rfl
  rw [filter_findings_kind_eq (by decide), referenceFindings, List.filter_append, htables, hcolumns,
    List.append_nil]

/-- A table is not found if the schema has no key that is its name but for the case of letters. -/
theorem not_hasTable_eq_all (m : Model) (name : String) :
    (!m.hasTable name) = m.tableNames.all fun key => asciiFold key ≠ asciiFold name := by
  rw [Model.hasTable_eq_any, List.not_any_eq_all_not]
  refine congrArg (List.all m.tableNames) (funext fun key => ?_)
  rw [sameIgnoringCase, decide_not, beq_eq_decide]

/-- The tables that are not found are, each with its first place and in order, the names of tables
in the trimmed query that are no key of the schema, whatever the case of letters.  There is one list
of names that the scan leads to.  These are the names that are looked up, and they are what the
pattern finds. -/
theorem check_tableNotFound (query : String) :
    ∃ refs : List Part,
      (∀ refs', ReferenceScan [] (trim query.toList) refs' ↔ refs' = refs) ∧
        tablesOf (trim query.toList) = refs.map (fun r => (r.name, r.span)) ∧
        (∀ found, tableReference.Finds [] (trim query.toList) found ↔
          found = refs.map fun r => [r]) ∧
        ∀ m : Model, (check (some m) query).filter (·.kind = .tableNotFound) =
          ((refs.eraseDupsBy fun r s => r.name == s.name).filter
            fun r => m.tableNames.all fun key => asciiFold key ≠ asciiFold r.name).map fun r =>
              ⟨.tableNotFound, .error, "Table '" ++ r.name ++ "' not found in schema",
                some (r.span.shifted (byteSize (blankPrefix query.toList))), none⟩ := by
  have hremain := remain_wordsOf (trim query.toList)
  have hgap := (Reading.laid_ofChars 0 (trim query.toList)).lead
  obtain ⟨refs, hscan, hrefs⟩ := exists_referenceScan [] hgap hremain.laid
    fun w ws hws => (hws ▸ hremain.laid).isRun hgap
  rw [← hremain.text] at hscan
  have hfinds := finds_tableReference hscan
  refine ⟨refs, fun refs' => ⟨fun h => ?_, fun h => h ▸ hscan⟩, hrefs,
    fun found => ⟨fun h => h.unique hfinds, fun h => h ▸ hfinds⟩, fun m => ?_⟩
  · have hsame := (finds_tableReference h).unique hfinds
    exact List.map_injective_iff.2 (fun r s hrs => (List.cons.inj hrs).1) hsame
  · rw [filter_check (some m) (fun k => k = .tableNotFound), filter_findings_tableNotFound,
      unknownTables_eq, tablesOf, hrefs, ← map_eraseDupsBy, List.filter_map, List.map_map,
      complaints, List.map_map]
    simp only [Function.comp_def, not_hasTable_eq_all]
    rfl

/-- The name JOIN is not looked at as a keyword. -/
example : (tablesOf "FROM join a".toList).map Prod.fst = ["join"] := by decide +kernel

end QueryLint.Query
