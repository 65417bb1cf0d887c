import QueryLint.Proofs.Query.Plain
import QueryLint.Proofs.Query.Quiet

/-!
# Join clauses

The end of a query in which tables are joined: clauses `JOIN r ON a.b = x.y`, any number of them,
and `LIMIT k`.  In front of them stands SELECT and something that no check minds.

* `JoinClause`, `endTokens`: the clauses, and the tokens of the end of a query.
* `conditioned_of_mem_joinUses_end`: every JOIN has its ON.
* `isUnqualified_of_mem_conditionBodies_end`: no condition is unqualified.  There is only one: it
  starts behind the first ON and reaches to the LIMIT, over all later clauses.
* `joinedTables`, `tableReferences_end`: the tables that the end refers to.
* `IsFront.quiet`: a query with such an end is quiet, if what stands in front is harmless.
-/

namespace QueryLint.Query

open Text
open Schema (Model)

/-- A table that is joined, and the two columns that have to be equal. -/
structure JoinClause where
  table : Identifier
  left : QualifiedName
  right : QualifiedName

namespace JoinClause

/-- The clause as it is written behind a table. -/
def text (j : JoinClause) : String :=
  " JOIN " ++ j.table.name ++ " ON " ++ j.left.text ++ " = " ++ j.right.text

/-- The condition as tokens. -/
def conditionTokens (j : JoinClause) : List Token :=
  j.left.tokens [' ', '=', ' '] ++ j.right.tokens [' ']

/-- The clause as tokens. -/
def tokens (j : JoinClause) : List Token :=
  ("JOIN".toList, [' ']) :: (j.table.chars, [' ']) :: ("ON".toList, [' ']) :: j.conditionTokens

end JoinClause

/-- The condition that the first ON starts: it goes on over all clauses behind it. -/
def bodyTokens (j : JoinClause) (js : List JoinClause) : List Token :=
  j.conditionTokens ++ js.flatMap JoinClause.tokens

/-- A LIMIT at the end of a query. -/
def limitTokens (limit : Identifier) : List Token :=
  [("LIMIT".toList, [' ']), (limit.chars, [])]

/-- Join clauses and a LIMIT. -/
def endTokens (js : List JoinClause) (limit : Identifier) : List Token :=
  js.flatMap JoinClause.tokens ++ limitTokens limit

@[simp] theorem endTokens_nil (limit : Identifier) :
    endTokens [] limit = limitTokens limit := rfl

@[simp] theorem endTokens_cons (j : JoinClause) (js : List JoinClause) (limit : Identifier) :
    endTokens (j :: js) limit = j.tokens ++ endTokens js limit := by
  rw [endTokens, List.flatMap_cons, List.append_assoc, ← endTokens]

theorem endTokens_cons_eq_body (j : JoinClause) (js : List JoinClause) (limit : Identifier) :
    endTokens (j :: js) limit =
      ("JOIN".toList, [' ']) :: (j.table.chars, [' ']) :: ("ON".toList, [' ']) ::
        (bodyTokens j js ++ limitTokens limit) := by
  rw [endTokens_cons, endTokens, bodyTokens, List.append_assoc, JoinClause.tokens]
  rfl

/-! ## Plain tokens -/

theorem JoinClause.isPlain_of_mem_tokens (j : JoinClause) : ∀ t ∈ j.tokens, IsPlain t := by
  refine List.forall_mem_cons.2 ⟨isPlain_keyword (by simp) (by decide), ?_⟩
  refine List.forall_mem_cons.2 ⟨j.table.isPlain (by decide), ?_⟩
  refine List.forall_mem_cons.2 ⟨isPlain_keyword (by simp) (by decide), ?_⟩
  refine List.forall_mem_append.2 ⟨j.left.isPlain_of_mem_tokens (by decide), ?_⟩
  exact j.right.isPlain_of_mem_tokens (by decide)

theorem JoinClause.isToken_of_mem_tokens (j : JoinClause) : ∀ t ∈ j.tokens, IsToken t := by
  have hne : ∀ t ∈ j.tokens, t.2 ≠ [] := by
    simp [JoinClause.tokens, JoinClause.conditionTokens, QualifiedName.tokens]
  exact fun t ht => (j.isPlain_of_mem_tokens t ht).isToken (hne t ht)

theorem isToken_of_mem_flatMap_tokens {js : List JoinClause} :
    ∀ t ∈ js.flatMap JoinClause.tokens, IsToken t :=
  List.forall_mem_flatMap.2 fun j _ => j.isToken_of_mem_tokens

theorem areTokens_bodyTokens (j : JoinClause) (js : List JoinClause) :
    AreTokens (bodyTokens j js) := by
  obtain ⟨-, hbehind⟩ := List.forall_mem_cons.1 j.isToken_of_mem_tokens
  obtain ⟨-, hbehind⟩ := List.forall_mem_cons.1 hbehind
  obtain ⟨-, hcondition⟩ := List.forall_mem_cons.1 hbehind
  exact areTokens_of_isToken (List.forall_mem_append.2 ⟨hcondition, isToken_of_mem_flatMap_tokens⟩)

theorem isPlain_limit : IsPlain ("LIMIT".toList, [' ']) :=
  isPlain_keyword (by simp) (by decide)

theorem isPlain_of_mem_endTokens {js : List JoinClause} {limit : Identifier} :
    ∀ t ∈ endTokens js limit, IsPlain t := by
  have hclauses : ∀ t ∈ js.flatMap JoinClause.tokens, IsPlain t :=
    List.forall_mem_flatMap.2 fun j _ => j.isPlain_of_mem_tokens
  have hlimit : ∀ t ∈ limitTokens limit, IsPlain t :=
    List.forall_mem_cons.2 ⟨isPlain_limit, List.forall_mem_singleton.2 (limit.isPlain (by decide))⟩
  exact List.forall_mem_append.2 ⟨hclauses, hlimit⟩

theorem areTokens_endTokens (js : List JoinClause) (limit : Identifier) :
    AreTokens (endTokens js limit) := by
  have hlimit := isPlain_limit.isToken (List.cons_ne_nil _ _)
  refine AreTokens.append isToken_of_mem_flatMap_tokens ?_
  refine .cons hlimit.text hlimit.after (fun _ => hlimit.apart) ?_
  exact .cons limit.isWordText_chars isGap_nil (fun h => absurd rfl h) .nil

/-! ## Keywords among the tokens -/

theorem JoinClause.spells_of_mem_conditionTokens (j : JoinClause) {keyword : String}
    (h : keyword ∈ reserved) : ∀ t ∈ j.conditionTokens, spells keyword t.1 = false :=
  List.forall_mem_append.2 ⟨j.left.spells_of_mem_tokens _ h, j.right.spells_of_mem_tokens _ h⟩

/-- A clause has no keywords but JOIN and ON. -/
theorem JoinClause.spells_of_mem_tokens (j : JoinClause) {keyword : String}
    (h : keyword ∈ reserved) (hjoin : keyword ≠ "join") (hon : keyword ≠ "on") :
    ∀ t ∈ j.tokens, spells keyword t.1 = false := by
  have hkeywords : ∀ keyword ∈ reserved, keyword ≠ "join" → keyword ≠ "on" →
      spells keyword "JOIN".toList = false ∧ spells keyword "ON".toList = false := by decide
  obtain ⟨hnotjoin, hnoton⟩ := hkeywords keyword h hjoin hon
  refine List.forall_mem_cons.2 ⟨hnotjoin, ?_⟩
  refine List.forall_mem_cons.2 ⟨j.table.spells_chars h, ?_⟩
  exact List.forall_mem_cons.2 ⟨hnoton, j.spells_of_mem_conditionTokens h⟩

/-- A list of clauses has no keywords but JOIN and ON. -/
theorem spells_of_mem_flatMap_tokens {js : List JoinClause} {keyword : String}
    (h : keyword ∈ reserved) (hjoin : keyword ≠ "join") (hon : keyword ≠ "on") :
    ∀ t ∈ js.flatMap JoinClause.tokens, spells keyword t.1 = false :=
  List.forall_mem_flatMap.2 fun j _ => j.spells_of_mem_tokens h hjoin hon

/-- Nothing in the condition closes it. -/
theorem spells_of_mem_bodyTokens (j : JoinClause) (js : List JoinClause) :
    ∀ keyword ∈ ["group", "order", "limit"],
      ∀ t ∈ bodyTokens j js, spells keyword t.1 = false := by
  have hreserved : ∀ keyword ∈ ["group", "order", "limit"],
      keyword ∈ reserved ∧ keyword ≠ "join" ∧ keyword ≠ "on" := by decide
  intro keyword hk
  obtain ⟨hres, hjoin, hon⟩ := hreserved keyword hk
  exact List.forall_mem_append.2
    ⟨j.spells_of_mem_conditionTokens hres, spells_of_mem_flatMap_tokens hres hjoin hon⟩

theorem spells_of_mem_limitTokens {limit : Identifier} {keyword : String}
    (h : keyword ∈ reserved) (hlimit : keyword ≠ "limit") :
    ∀ t ∈ limitTokens limit, spells keyword t.1 = false := by
  have hkeywords : ∀ keyword ∈ reserved, keyword ≠ "limit" →
      spells keyword "LIMIT".toList = false := by decide
  refine List.forall_mem_cons.2 ⟨hkeywords keyword h hlimit, ?_⟩
  exact List.forall_mem_singleton.2 (limit.spells_chars h)

/-- The end of a query has no keywords but JOIN, ON and LIMIT. -/
theorem spells_of_mem_endTokens {js : List JoinClause} {limit : Identifier} {keyword : String}
    (h : keyword ∈ reserved) (hjoin : keyword ≠ "join") (hon : keyword ≠ "on")
    (hlimit : keyword ≠ "limit") : ∀ t ∈ endTokens js limit, spells keyword t.1 = false :=
  List.forall_mem_append.2
    ⟨spells_of_mem_flatMap_tokens h hjoin hon, spells_of_mem_limitTokens h hlimit⟩

/-! ## What the scans make of the end -/

theorem isBlankText_space : IsBlankText [' '] := by decide

theorem spells_join : spells "join" "JOIN".toList = true := by decide

theorem spells_on : spells "on" "ON".toList = true := by decide

theorem spells_limit : spells "limit" "LIMIT".toList = true := by decide

/-- The JOIN of a clause has its ON.  The first word of the condition is read with the ON, and no
JOIN is left in what follows it. -/
theorem joinUses_clause (j : JoinClause) (pos : Nat) (ws : List Word) :
    ∃ join last, joinUses (place pos j.tokens ++ ws) = ⟨join, last, true⟩ :: joinUses ws := by
  obtain ⟨t, ts, hcondition⟩ : ∃ t ts, j.conditionTokens = t :: ts := ⟨_, _, rfl⟩
  have hjoin := j.spells_of_mem_conditionTokens (by decide : "join" ∈ reserved)
  rw [hcondition] at hjoin
  obtain ⟨-, hbehind⟩ := List.forall_mem_cons.1 hjoin
  rw [JoinClause.tokens, hcondition]
  simp only [place_cons, List.cons_append]
  rw [joinUses_cons_on (is_of_spells spells_join _ _) isBlankText_space isBlankText_space
      (is_of_spells spells_on _ _) isBlankText_space,
    joinUses_append_of_not (is_of_mem_place hbehind _)]
  exact ⟨_, _, rfl⟩

theorem conditioned_of_mem_joinUses_end {js : List JoinClause} {limit : Identifier} {pos : Nat} :
    ∀ u ∈ joinUses (place pos (endTokens js limit)), u.conditioned = true := by
  induction js generalizing pos with
  | nil =>
    have hlimit : ∀ t ∈ limitTokens limit, spells "join" t.1 = false :=
      spells_of_mem_limitTokens (by decide) (by decide)
    rw [endTokens_nil, joinUses_eq_nil (is_of_mem_place hlimit pos)]
    exact List.forall_mem_nil _
  | cons j js ih =>
    rw [endTokens_cons, place_append]
    obtain ⟨join, last, huses⟩ := joinUses_clause j pos
      (place (pos + byteSize (textOfTokens j.tokens)) (endTokens js limit))
    rw [huses]
    exact List.forall_mem_cons.2 ⟨rfl, ih⟩

/-- A condition that starts with a qualified column is not unqualified. -/
theorem isUnqualified_textOfTokens {t u : Token} {ts : List Token}
    (h : AreTokens (t :: u :: ts)) (hdot : t.2 = ['.']) :
    isUnqualified (textOfTokens (t :: u :: ts)) = false := by
  have hpairs : (qualifiedPairs (place 0 (t :: u :: ts))).isEmpty = false := by
    rw [place_cons, place_cons, qualifiedPairs, if_pos hdot]
    rfl
  simp only [isUnqualified, wordsOf_textOfTokens h, hpairs, Bool.false_and]

/-- Nothing stands behind the last word. -/
theorem conditionBodies_last (pos : Nat) (text : List Char) :
    conditionBodies [⟨pos, text, []⟩] = [] := by
  rw [conditionBodies, if_neg (by simp [Word.beforeBlank]), conditionBodies]

/-- The condition behind an ON, up to the LIMIT. -/
theorem conditionBodies_on {on : Word} (hon : on.is "on" = true) (hgap : on.after = [' '])
    {us : List Word} (hus : ∀ u ∈ us, u.isOneOf ["group", "order", "limit"] = false)
    {limit : Word} (hlimit : limit.is "limit" = true) (ws : List Word) :
    conditionBodies (on :: (us ++ limit :: ws)) = Word.textOf us :: conditionBodies ws := by
  have hcloses : limit.isOneOf ["group", "order", "limit"] = true := by
    simp [Word.isOneOf, hlimit]
  have htext : textUpTo ["group", "order", "limit"] [] (us ++ limit :: ws) =
      ([] ++ Word.textOf us, ws) := textUpTo_append hus hcloses []
  rw [conditionBodies, if_pos (by simp [Word.isOneOf, Word.beforeBlank, hon, hgap, isBlank]), hgap]
  show (textUpTo _ [] _).1 :: conditionBodies (textUpTo _ [] _).2 = _
  rw [htext, List.nil_append]

/-- The condition behind the first ON is qualified, and it is the only one. -/
theorem isUnqualified_of_mem_conditionBodies_end {js : List JoinClause} {limit : Identifier}
    {pos : Nat} :
    ∀ body ∈ conditionBodies (place pos (endTokens js limit)), isUnqualified body = false := by
  cases js with
  | nil =>
    have hlimit : ["where", "on"].any (spells · "LIMIT".toList) = false := by decide
    rw [endTokens_nil, limitTokens, place_cons,
      conditionBodies_cons_of_not (isOneOf_of_spells hlimit _ _), place_cons, place_nil,
      conditionBodies_last]
    exact List.forall_mem_nil _
  | cons j js =>
    have hbody := isOneOf_of_mem_place (spells_of_mem_bodyTokens j js)
    have hjoin : ["where", "on"].any (spells · "JOIN".toList) = false := by decide
    have htable : ["where", "on"].any (spells · j.table.chars) = false := by
      simp only [List.any_cons, List.any_nil, Bool.or_false,
        j.table.spells_chars (by decide : "where" ∈ reserved),
        j.table.spells_chars (by decide : "on" ∈ reserved)]
    rw [endTokens_cons_eq_body, place_cons,
      conditionBodies_cons_of_not (isOneOf_of_spells hjoin _ _), place_cons,
      conditionBodies_cons_of_not (isOneOf_of_spells htable _ _), place_cons, place_append,
      limitTokens, place_cons _ ("LIMIT".toList, [' ']),
      conditionBodies_on (is_of_spells spells_on _ _) rfl (hbody _) (is_of_spells spells_limit _ _),
      place_cons, place_nil, conditionBodies_last, textOf_place]
    exact List.forall_mem_singleton.2 (isUnqualified_textOfTokens (areTokens_bodyTokens j js) rfl)

/-- Every clause refers to its table. -/
theorem tableReferences_clause (j : JoinClause) (pos : Nat) (ws : List Word) :
    tableReferences (place pos j.tokens ++ ws) =
      ⟨pos + 5, j.table.chars, [' ']⟩ :: tableReferences ws := by
  have hkeywords : ∀ keyword ∈ ["from", "join"],
      ∀ t ∈ ("ON".toList, [' ']) :: j.conditionTokens, spells keyword t.1 = false := by
    have hreserved : ∀ keyword ∈ ["from", "join"],
        keyword ∈ reserved ∧ spells keyword "ON".toList = false := by decide
    intro keyword hk
    obtain ⟨hres, hon⟩ := hreserved keyword hk
    exact List.forall_mem_cons.2 ⟨hon, j.spells_of_mem_conditionTokens hres⟩
  have hjoin : ["from", "join"].any (spells · "JOIN".toList) = true := by decide
  rw [JoinClause.tokens, place_cons, place_cons, List.cons_append, List.cons_append,
    tableReferences_cons_name (isOneOf_of_spells hjoin _ _) isBlankText_space,
    tableReferences_append_of_not (isOneOf_of_mem_place hkeywords _)]
  rfl

/-- The tables that clauses join, each with its place, if the first clause stands at offset
`pos`. -/
def joinedTables (pos : Nat) : List JoinClause → List (String × Span)
  | [] => []
  | j :: js =>
    (j.table.name, ⟨pos + 6, j.table.name.utf8ByteSize⟩) ::
      joinedTables (pos + j.text.utf8ByteSize) js

theorem JoinClause.text_toList (j : JoinClause) :
    j.text.toList ++ [' '] = ' ' :: textOfTokens j.tokens := by
  simp [JoinClause.text, JoinClause.tokens, JoinClause.conditionTokens, QualifiedName.text,
    QualifiedName.tokens, Identifier.chars]

theorem JoinClause.byteSize_tokens (j : JoinClause) :
    byteSize (textOfTokens j.tokens) = j.text.utf8ByteSize := by
  have h := congrArg byteSize j.text_toList
  rw [byteSize_append, byteSize_toList, byteSize_cons, byteSize_cons, byteSize_nil] at h
  omega

theorem clauses_toList (js : List JoinClause) :
    (String.join (js.map JoinClause.text)).toList ++ [' '] =
      ' ' :: textOfTokens (js.flatMap JoinClause.tokens) := by
  induction js with
  | nil => rfl
  | cons j js ih =>
    rw [List.map_cons, String.join_cons, String.toList_append, List.append_assoc, ih,
      List.flatMap_cons, textOfTokens_append, ← List.cons_append, ← j.text_toList,
      List.append_assoc]
    rfl

/-- The end of a query refers to the tables that are joined. -/
theorem tableReferences_end (js : List JoinClause) (limit : Identifier) (pos : Nat) :
    (tableReferences (place (pos + 1) (endTokens js limit))).map (fun w => (w.name, w.span)) =
      joinedTables pos js := by
  induction js generalizing pos with
  | nil =>
    have hlimit : ∀ keyword ∈ ["from", "join"], ∀ t ∈ limitTokens limit,
        spells keyword t.1 = false := by
      have hreserved : ∀ keyword ∈ ["from", "join"], keyword ∈ reserved ∧ keyword ≠ "limit" := by
        decide
      intro keyword hk
      exact spells_of_mem_limitTokens (hreserved keyword hk).1 (hreserved keyword hk).2
    rw [endTokens_nil, tableReferences_eq_nil (isOneOf_of_mem_place hlimit _)]
    rfl
  | cons j js ih =>
    rw [endTokens_cons, place_append, tableReferences_clause, List.map_cons, j.byteSize_tokens,
      Nat.add_right_comm pos 1 j.text.utf8ByteSize, ih, joinedTables, Word.name, Word.span,
      j.table.ofList_chars, j.table.byteSize_chars]

/-! ## What stands in front -/

/-- What stands in front of the clauses starts with SELECT and is otherwise nothing that a check
looks for. -/
structure IsFront (front : List Token) : Prop where
  isPlain : ∀ t ∈ front, IsPlain t
  apart : ∀ t ∈ front, t.2 ≠ []
  harmless : ∀ keyword ∈ ["where", "on", "join", "group", "delete", "update"],
    ∀ t ∈ front, spells keyword t.1 = false
  /-- SELECT occurs only as the first word, and FROM is not its neighbour. -/
  listed : ∃ gap t ts, front = ("SELECT".toList, gap) :: t :: ts ∧
    (∀ u ∈ t :: ts, spells "select" u.1 = false) ∧
      (spells "from" t.1 = false ∨ ¬ IsBlankText gap)

namespace IsFront

variable {front : List Token} {js : List JoinClause} {limit : Identifier}

/-- The words of the query are the tokens. -/
theorem wordsOf_eq (h : IsFront front) (js : List JoinClause) (limit : Identifier) :
    wordsOf (textOfTokens (front ++ endTokens js limit)) =
      place 0 front ++ place (byteSize (textOfTokens front)) (endTokens js limit) := by
  have hfront : ∀ t ∈ front, IsToken t := fun t ht => (h.isPlain t ht).isToken (h.apart t ht)
  rw [wordsOf_textOfTokens (.append hfront (areTokens_endTokens js limit)), place_append,
    Nat.zero_add]

theorem adjacentPair?_eq_none (h : IsFront front) (pos : Nat) :
    adjacentPair? "select" "from" (place 0 front ++ place pos (endTokens js limit)) = none := by
  obtain ⟨gap, t, ts, rfl, hselect, hfrom⟩ := h.listed
  have hend : ∀ u ∈ endTokens js limit, spells "select" u.1 = false :=
    spells_of_mem_endTokens (by decide) (by decide) (by decide) (by decide)
  have hwords (p : Nat) : ∀ u ∈ place p (t :: ts) ++ place pos (endTokens js limit),
      u.is "select" = false :=
    List.forall_mem_append.2 ⟨is_of_mem_place hselect p, is_of_mem_place hend pos⟩
  exact adjacentPair?_cons_eq_none (hwords _) hfrom

theorem not_mem_textOfTokens (h : IsFront front) {c : Char}
    (hc : c ∈ ['\'', '"', '(', ')', ';', '-']) :
    c ∉ textOfTokens (front ++ endTokens js limit) := by
  have hspecial : ['\'', '"', '(', ')', ';', '-'].all
      (fun c => !isWordChar c && !plainSigns.contains c) = true := by decide
  have hboth := List.all_eq_true.1 hspecial c hc
  rw [Bool.and_eq_true, Bool.not_eq_true', Bool.not_eq_true'] at hboth
  obtain ⟨hword, hsign⟩ := hboth
  exact Query.not_mem_textOfTokens
    (List.forall_mem_append.2 ⟨h.isPlain, isPlain_of_mem_endTokens⟩) hword hsign

/-- A query with such a front is quiet. -/
theorem quiet (h : IsFront front) : Quiet (textOfTokens (front ++ endTokens js limit)) where
  plain _ hc := h.not_mem_textOfTokens hc
  tame := by
    have hkeywords : ∀ keyword ∈ ["where", "group", "delete", "update"],
        keyword ∈ ["where", "on", "join", "group", "delete", "update"] ∧ keyword ∈ reserved ∧
          keyword ≠ "join" ∧ keyword ≠ "on" ∧ keyword ≠ "limit" := by decide
    rw [h.wordsOf_eq]
    intro w hw keyword hk
    obtain ⟨hfront, hres, hjoin, hon, hlimit⟩ := hkeywords keyword hk
    rcases List.mem_append.1 hw with hw | hw
    · exact is_of_mem_place (h.harmless keyword hfront) 0 w hw
    · exact is_of_mem_place (spells_of_mem_endTokens hres hjoin hon hlimit) _ w hw
  listed := by
    rw [h.wordsOf_eq]
    exact h.adjacentPair?_eq_none _
  limited := by
    rw [h.wordsOf_eq, endTokens, place_append, limitTokens, place_cons]
    simp only [List.any_append, List.any_cons, is_of_spells spells_limit, Bool.true_or,
      Bool.or_true]
  joined := by
    rw [h.wordsOf_eq, joinUses_append_of_not (is_of_mem_place (h.harmless "join" (by simp)) 0)]
    exact conditioned_of_mem_joinUses_end
  qualified := by
    have hnone : ∀ keyword ∈ ["where", "on"], ∀ t ∈ front, spells keyword t.1 = false := by
      have hmem : ∀ keyword ∈ ["where", "on"],
          keyword ∈ ["where", "on", "join", "group", "delete", "update"] := by decide
      exact fun keyword hk => h.harmless keyword (hmem keyword hk)
    rw [h.wordsOf_eq, conditionBodies_append_of_not (isOneOf_of_mem_place hnone 0)]
    exact isUnqualified_of_mem_conditionBodies_end

/-- A query with such a front needs no trimming. -/
theorem framed (h : IsFront front) : Framed (textOfTokens (front ++ endTokens js limit)) := by
  obtain ⟨gap, t, ts, rfl, -⟩ := h.listed
  have hselect : Framed "SELECT".toList :=
    framed_of_isWordChar (by decide) (List.all_eq_true.1 (by decide))
  have hlimit : Framed limit.chars :=
    framed_of_isWordChar limit.isWordText_chars.ne_nil limit.isWordText_chars.isWordChar
  have hsplit : textOfTokens (("SELECT".toList, gap) :: t :: ts ++ endTokens js limit) =
      "SELECT".toList ++ (gap ++ textOfTokens (t :: ts) ++
        textOfTokens (js.flatMap JoinClause.tokens) ++ "LIMIT ".toList) ++ limit.chars := by
    simp [endTokens, limitTokens]
  rw [hsplit]
  exact hselect.append _ hlimit

/-- All that can be wrong with such a query are its tables and columns. -/
theorem check_eq (h : IsFront front) {query : String}
    (hquery : query.toList = textOfTokens (front ++ endTokens js limit)) (m : Model) :
    check (some m) query =
      (unknownTables m query.toList ++ unknownColumns m query.toList).map Finding.diagnostic := by
  refine Quiet.check_eq ?_ ?_ m
  · rw [hquery]
    exact h.quiet
  · rw [hquery]
    exact h.framed

end IsFront

end QueryLint.Query
