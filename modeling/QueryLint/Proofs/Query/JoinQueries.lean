import QueryLint.Proofs.Query.Clauses
import QueryLint.Proofs.Query.Columns
import QueryLint.Proofs.Query.References
import QueryLint.Proofs.Text.Marking

/-!
# Queries that join tables

A query `SELECT t.c, … FROM r JOIN s ON a.b = x.y … LIMIT k` with any number of columns and joins
is complete and safe: all that can be wrong with it are its names.  `JoinQuery.complaints` lists
these: first the tables that the schema does not have, each once and where it first occurs, then
the columns that their tables do not have.  The check finds exactly these
(`check_joinQuery`), so it neither cries wolf nor misses a name.

The proof writes the query as tokens, in two parts.  The part in front has the columns and the
first table (`isFront_frontTokens`), the part behind has the joins; each reference comes from one
of them (`tablesOf_text`).
-/

namespace QueryLint.Query

open Text
open Schema (Model)

/-- A query that joins tables. -/
structure JoinQuery where
  /-- The first column that is selected. -/
  first : QualifiedName
  /-- The other columns. -/
  others : List QualifiedName
  /-- The table behind FROM. -/
  source : Identifier
  joins : List JoinClause
  /-- A number. -/
  limit : String
  limit_ne_empty : limit ≠ ""
  limit_isDigit : ∀ c ∈ limit.toList, c.isDigit = true

namespace JoinQuery

variable (q : JoinQuery)

/-- All columns that are selected. -/
def columns : List QualifiedName := q.first :: q.others

/-- The query up to the first table. -/
def frontText : String :=
  "SELECT " ++ ", ".intercalate (q.columns.map QualifiedName.text) ++ " FROM "

/-- The query as it is written. -/
def text : String :=
  q.frontText ++ q.source.name ++ String.join (q.joins.map JoinClause.text) ++ " LIMIT " ++ q.limit

/-- The tables that the query refers to, each with its place. -/
def tables : List (String × Span) :=
  (q.source.name, ⟨q.frontText.utf8ByteSize, q.source.name.utf8ByteSize⟩) ::
    joinedTables (q.frontText.utf8ByteSize + q.source.name.utf8ByteSize) q.joins

/-- What is wrong with the query: each unknown table, where it first occurs, and then the columns
that known tables do not have. -/
def complaints (m : Model) : List Diagnostic :=
  ((q.tables.eraseDupsBy fun s t => s.1 == t.1).filter fun t => !m.hasTable t.1).map
      (fun t => (Finding.tableNotFound t.1 t.2).diagnostic) ++
    (q.columns.filter fun c =>
        (m.table? c.table.name).any fun t => !t.hasColumn c.column.name).map
      fun c => (Finding.columnNotFound c.table.name c.column.name).diagnostic

/-- The schema has all the tables and columns of the query. -/
structure DeclaredIn (m : Model) : Prop where
  tables : ∀ t ∈ q.tables, m.hasTable t.1 = true
  columns : ∀ c ∈ q.columns,
    ∃ t, m.table? c.table.name = some t ∧ t.hasColumn c.column.name = true

variable {q} in
theorem DeclaredIn.complaints_eq_nil {m : Model} (h : q.DeclaredIn m) : q.complaints m = [] := by
  have htables : ((q.tables.eraseDupsBy fun s t => s.1 == t.1).filter
      fun t => !m.hasTable t.1) = [] := by
    rw [List.filter_eq_nil_iff]
    intro t ht
    simp [h.tables t (mem_of_mem_eraseDupsBy ht)]
  have hcolumns : (q.columns.filter fun c =>
      (m.table? c.table.name).any fun t => !t.hasColumn c.column.name) = [] := by
    rw [List.filter_eq_nil_iff]
    intro c hc
    obtain ⟨t, htable, hcolumn⟩ := h.columns c hc
    simp [htable, hcolumn]
  rw [complaints, htables, hcolumns]
  rfl

/-! ## The query as tokens -/

/-- The number as an identifier. -/
def limitIdentifier : Identifier :=
  ⟨q.limit, isIdentifier_of_isDigit q.limit_ne_empty q.limit_isDigit⟩

/-- The tokens up to the first table. -/
def listTokens : List Token := ("SELECT".toList, [' ']) :: columnTokens [' '] q.first q.others

/-- The tokens in front of the joins. -/
def frontTokens : List Token :=
  q.listTokens ++ [("FROM".toList, [' ']), (q.source.chars, [' '])]

/-- The tokens of the query. -/
def tokens : List Token := q.frontTokens ++ endTokens q.joins q.limitIdentifier

theorem frontText_toList :
    q.frontText.toList = textOfTokens q.listTokens ++ "FROM ".toList := by
  show ("SELECT " ++ columnList q.first q.others ++ " FROM ").toList = _
  rw [listTokens, textOfTokens_cons, textOfTokens_columnTokens]
  simp

theorem frontTokens_toList :
    textOfTokens q.frontTokens = (q.frontText ++ q.source.name).toList ++ [' '] := by
  rw [frontTokens, textOfTokens_append, String.toList_append, frontText_toList]
  simp [Identifier.chars]

theorem endTokens_toList :
    ' ' :: textOfTokens (endTokens q.joins q.limitIdentifier) =
      (String.join (q.joins.map JoinClause.text) ++ (" LIMIT " ++ q.limit)).toList := by
  have hlimit : (" LIMIT " ++ q.limit).toList =
      [' '] ++ textOfTokens (limitTokens q.limitIdentifier) := by
    simp [limitTokens, limitIdentifier, Identifier.chars]
  rw [endTokens, textOfTokens_append, ← List.cons_append, ← clauses_toList, String.toList_append,
    hlimit, List.append_assoc]

/-- The query is made up of its tokens. -/
theorem text_toList : q.text.toList = textOfTokens q.tokens := by
  rw [tokens, textOfTokens_append, frontTokens_toList, List.append_assoc, List.singleton_append,
    endTokens_toList, ← String.toList_append, text]
  simp only [String.append_assoc]

theorem byteSize_listTokens :
    byteSize (textOfTokens q.listTokens) + 5 = q.frontText.utf8ByteSize := by
  have h := congrArg byteSize q.frontText_toList
  rw [byteSize_toList, byteSize_append] at h
  exact h.symm

/-- The tokens in front of the joins, one by one. -/
theorem forall_mem_frontTokens {P : Token → Prop} (hselect : P ("SELECT".toList, [' ']))
    (hcolumns : ∀ t ∈ columnTokens [' '] q.first q.others, P t) (hfrom : P ("FROM".toList, [' ']))
    (hsource : P (q.source.chars, [' '])) : ∀ t ∈ q.frontTokens, P t :=
  List.forall_mem_append.2 ⟨List.forall_mem_cons.2 ⟨hselect, hcolumns⟩,
    List.forall_mem_cons.2 ⟨hfrom, List.forall_mem_singleton.2 hsource⟩⟩

theorem isFront_frontTokens : IsFront q.frontTokens where
  isPlain := q.forall_mem_frontTokens (isPlain_keyword (by simp) (by decide))
    (isPlain_of_mem_columnTokens (by decide) _ _) (isPlain_keyword (by simp) (by decide))
    (q.source.isPlain (by decide))
  apart := q.forall_mem_frontTokens (List.cons_ne_nil _ _)
    (ne_nil_of_mem_columnTokens (List.cons_ne_nil _ _) _ _) (List.cons_ne_nil _ _)
    (List.cons_ne_nil _ _)
  harmless := by
    have hkeywords : ∀ keyword ∈ ["where", "on", "join", "group", "delete", "update"],
        keyword ∈ reserved ∧ spells keyword "SELECT".toList = false ∧
          spells keyword "FROM".toList = false := by decide
    intro keyword hk
    obtain ⟨hres, hselect, hfrom⟩ := hkeywords keyword hk
    exact q.forall_mem_frontTokens hselect (spells_of_mem_columnTokens _ _ _ hres) hfrom
      (q.source.spells_chars hres)
  listed := by
    obtain ⟨ts, hts⟩ := exists_columnTokens_eq [' '] q.first q.others
    have hselect := spells_of_mem_columnTokens [' '] q.first q.others
      (by decide : "select" ∈ reserved)
    rw [hts] at hselect
    refine ⟨[' '], (q.first.table.chars, ['.']),
      ts ++ [("FROM".toList, [' ']), (q.source.chars, [' '])], ?_, ?_, Or.inl ?_⟩
    · rw [frontTokens, listTokens, hts]
      rfl
    · refine List.forall_mem_append.2 ⟨hselect, List.forall_mem_cons.2 ⟨by decide, ?_⟩⟩
      exact List.forall_mem_singleton.2 (q.source.spells_chars (by decide))
    · exact q.first.table.spells_chars (by decide)

/-! ## What is found in it -/

theorem wordsOf_text :
    wordsOf q.text.toList =
      place 0 q.listTokens ++
        (⟨byteSize (textOfTokens q.listTokens), "FROM".toList, [' ']⟩ ::
          ⟨q.frontText.utf8ByteSize, q.source.chars, [' ']⟩ ::
            place (q.frontText.utf8ByteSize + q.source.name.utf8ByteSize + 1)
              (endTokens q.joins q.limitIdentifier)) := by
  have hfront : byteSize (textOfTokens q.frontTokens) =
      q.frontText.utf8ByteSize + q.source.name.utf8ByteSize + 1 := by
    rw [frontTokens_toList, byteSize_append, byteSize_toList, String.utf8ByteSize_append]
    rfl
  have hfrom : byteSize ("FROM".toList ++ [' ']) = 5 := rfl
  rw [text_toList, tokens, q.isFront_frontTokens.wordsOf_eq, hfront, frontTokens, place_append,
    place_cons, place_cons, place_nil, Nat.zero_add, hfrom, byteSize_listTokens, List.append_assoc]
  rfl

/-- The query refers to the first table and to those that are joined. -/
theorem tablesOf_text : tablesOf q.text.toList = q.tables := by
  have hlist : ∀ keyword ∈ ["from", "join"], ∀ t ∈ q.listTokens, spells keyword t.1 = false := by
    have hkeywords : ∀ keyword ∈ ["from", "join"],
        keyword ∈ reserved ∧ spells keyword "SELECT".toList = false := by decide
    intro keyword hk
    obtain ⟨hres, hselect⟩ := hkeywords keyword hk
    exact List.forall_mem_cons.2 ⟨hselect, spells_of_mem_columnTokens _ _ _ hres⟩
  have hfrom : ["from", "join"].any (spells · "FROM".toList) = true := by decide
  rw [tablesOf, wordsOf_text, tableReferences_append_of_not (isOneOf_of_mem_place hlist 0),
    tableReferences_cons_name (isOneOf_of_spells hfrom _ _) isBlankText_space, List.map_cons,
    tableReferences_end, tables, Word.name, Word.span, q.source.ofList_chars,
    q.source.byteSize_chars]

/-- The list behind SELECT are the columns. -/
theorem selectList?_text :
    selectList? q.text.toList = some (columnList q.first q.others).toList := by
  have hselect : spells "select" "SELECT".toList = true := by decide
  have hfrom : spells "from" "FROM".toList = true := by decide
  have hwords := q.wordsOf_text
  rw [listTokens, place_cons, List.cons_append] at hwords
  have hstart : trimStart [' '] = [] := rfl
  rw [selectList?_eq_some hwords (is_of_spells hselect _ _) rfl
      (textBeforeFrom?_columns _ _ _ (is_of_spells hfrom _ _) _ _),
    hstart, List.nil_append, trimEnd_append_of_blank _ isBlankText_space,
    (framed_columnList q.first q.others).trimEnd_eq]

end JoinQuery

/-- In a query that joins tables the check finds the names that the schema does not have, and
nothing else.  If the schema has all of them, the query is valid. -/
theorem check_joinQuery (m : Model) (q : JoinQuery) :
    check (some m) q.text = q.complaints m ∧
      (q.DeclaredIn m →
        check (some m) q.text = [] ∧ (validate (some m) q.text).valid = true) := by
  have hcheck : check (some m) q.text = q.complaints m := by
    rw [q.isFront_frontTokens.check_eq q.text_toList, unknownTables_eq, q.tablesOf_text,
      unknownColumns_eq q.selectList?_text, List.map_append, List.map_map, List.map_map]
    simp only [lacksColumn_eq_any]
    rfl
  refine ⟨hcheck, ?_⟩
  intro hdeclared
  rw [validate, hcheck, hdeclared.complaints_eq_nil]
  exact ⟨rfl, rfl⟩

/-- A schema with users and their orders. -/
def shop : Model where
  tables := .ofList
    [("users", ⟨"users", none, .ofList [("id", .ofType "int")], none, .empty⟩),
     ("orders", ⟨"orders", none, .ofList [("user_id", .ofType "int")], none, .empty⟩)]

/-- The users that have ordered something. -/
def ordersOfUsers : JoinQuery where
  first := ⟨⟨"users", by decide⟩, ⟨"ID", by decide⟩⟩
  others := [⟨⟨"orders", by decide⟩, ⟨"user_id", by decide⟩⟩]
  source := ⟨"users", by decide⟩
  joins :=
    [{ table := ⟨"Orders", by decide⟩
       left := ⟨⟨"users", by decide⟩, ⟨"id", by decide⟩⟩
       right := ⟨⟨"orders", by decide⟩, ⟨"user_id", by decide⟩⟩ }]
  limit := "10"
  limit_ne_empty := by decide
  limit_isDigit := List.all_eq_true.1 (by decide)

theorem check_ordersOfUsers :
    ordersOfUsers.text =
        "SELECT users.ID, orders.user_id FROM users " ++
          "JOIN Orders ON users.id = orders.user_id LIMIT 10" ∧
      ordersOfUsers.DeclaredIn shop ∧ check (some shop) ordersOfUsers.text = [] ∧
        (validate (some shop) ordersOfUsers.text).valid = true := by
  have hdeclared : ordersOfUsers.DeclaredIn shop := by
    refine ⟨by decide, ?_⟩
    refine List.forall_mem_cons.2 ⟨⟨_, rfl, rfl⟩, ?_⟩
    exact List.forall_mem_singleton.2 ⟨_, rfl, rfl⟩
  exact ⟨by decide, hdeclared, (check_joinQuery shop ordersOfUsers).2 hdeclared⟩

end QueryLint.Query
