import QueryLint.Proofs.Query.Clauses
import QueryLint.Proofs.Query.Columns
import QueryLint.Proofs.Query.References
import QueryLint.Proofs.Schema.Joins

/-!
# Suggested joins

A join that was found in a schema is printed so that a user can put it behind its left table.  The
query that this makes, `SELECT * FROM l INNER JOIN r ON l.a = r.b LIMIT 1`, has nothing to
complain about when it is checked against the same schema (`check_suggestedJoin`).

The names in it have to be identifiers, since a schema may name a table `order by` and the query
has no quotes; and the foreign key has to point at a table that is there.  Nothing more is needed:
the left table is known because a schema that was built has its tables under their names.
-/

namespace QueryLint.Query

open Text
open Schema (Document Join Model Table modelOf)

/-- The query that reads one row of a join. -/
def sampleQuery (j : Join) : String :=
  "SELECT * FROM " ++ j.left ++ " " ++ j.toString ++ " LIMIT 1"

/-- The tokens of such a query in front of JOIN. -/
def sampleFront (left : Identifier) : List Token :=
  [("SELECT".toList, " * ".toList), ("FROM".toList, [' ']), (left.chars, [' ']),
    ("INNER".toList, [' '])]

/-- One row is enough. -/
def one : Identifier := ⟨"1", by decide⟩

theorem isFront_sampleFront (left : Identifier) : IsFront (sampleFront left) where
  isPlain := by
    refine List.forall_mem_cons.2 ⟨isPlain_keyword (by simp) (by decide), ?_⟩
    refine List.forall_mem_cons.2 ⟨isPlain_keyword (by simp) (by decide), ?_⟩
    refine List.forall_mem_cons.2 ⟨left.isPlain (by decide), ?_⟩
    exact List.forall_mem_singleton.2 (isPlain_keyword (by simp) (by decide))
  apart := by
    simp [sampleFront]
  harmless := by
    have hkeywords : ∀ keyword ∈ ["where", "on", "join", "group", "delete", "update"],
        keyword ∈ reserved ∧ spells keyword "SELECT".toList = false ∧
          spells keyword "FROM".toList = false ∧ spells keyword "INNER".toList = false := by decide
    intro keyword hk
    obtain ⟨hres, hselect, hfrom, hinner⟩ := hkeywords keyword hk
    refine List.forall_mem_cons.2 ⟨hselect, List.forall_mem_cons.2 ⟨hfrom, ?_⟩⟩
    exact List.forall_mem_cons.2 ⟨left.spells_chars hres, List.forall_mem_singleton.2 hinner⟩
  listed := by
    refine ⟨_, _, _, rfl, ?_, Or.inr (by decide)⟩
    refine List.forall_mem_cons.2 ⟨by decide, List.forall_mem_cons.2 ⟨?_, ?_⟩⟩
    · exact left.spells_chars (by decide)
    · exact List.forall_mem_singleton.2 (by decide)

/-! ## The query as tokens -/

/-- The clause of such a query. -/
def sampleClause (left column right target : Identifier) : JoinClause where
  table := right
  left := ⟨left, column⟩
  right := ⟨right, target⟩

/-- The join is written with these names. -/
structure IsWrittenWith (j : Join) (left column right target : Identifier) : Prop where
  left_eq : j.left = left.name
  right_eq : j.right = right.name
  condition_eq :
    j.condition = left.name ++ "." ++ column.name ++ " = " ++ right.name ++ "." ++ target.name

section

variable {j : Join} {left column right target : Identifier}

theorem toString_eq (h : IsWrittenWith j left column right target) :
    j.toString = "INNER" ++ (sampleClause left column right target).text := by
  have hkind : j.kind.keyword = "INNER" := by
    cases j.kind
    rfl
  simp only [Join.toString, hkind, h.right_eq, h.condition_eq, sampleClause, JoinClause.text,
    QualifiedName.text, String.append_assoc]

theorem sampleFront_toList (left : Identifier) :
    textOfTokens (sampleFront left) =
      ("SELECT * FROM " ++ left.name ++ " INNER").toList ++ [' '] := by
  simp [sampleFront, Identifier.chars]

/-- The query is made up of these tokens. -/
theorem sampleQuery_toList (h : IsWrittenWith j left column right target) :
    (sampleQuery j).toList =
      textOfTokens (sampleFront left ++ endTokens [sampleClause left column right target] one) := by
  have hclause (cs : List Char) :
      (sampleClause left column right target).text.toList ++ (' ' :: cs) =
        [' '] ++ (textOfTokens (sampleClause left column right target).tokens ++ cs) := by
    rw [List.append_cons, JoinClause.text_toList]
    rfl
  have hinner : " ".toList ++ "INNER".toList = " INNER".toList := rfl
  have hlimit : " LIMIT 1".toList = ' ' :: textOfTokens (limitTokens one) := rfl
  show ("SELECT * FROM " ++ j.left ++ " " ++ j.toString ++ " LIMIT 1").toList = _
  rw [toString_eq h, h.left_eq, textOfTokens_append, sampleFront_toList,
    endTokens_cons, endTokens_nil, textOfTokens_append]
  simp only [String.toList_append, List.append_assoc, hlimit, hclause, ← hinner]

theorem wordsOf_sampleQuery (h : IsWrittenWith j left column right target) :
    wordsOf (sampleQuery j).toList =
      place 0 (sampleFront left) ++
        place (("SELECT * FROM " ++ left.name ++ " INNER").utf8ByteSize + 1)
          (endTokens [sampleClause left column right target] one) := by
  rw [sampleQuery_toList h, (isFront_sampleFront left).wordsOf_eq, sampleFront_toList,
    byteSize_append, byteSize_toList]
  rfl

theorem tablesOf_sampleQuery (h : IsWrittenWith j left column right target) :
    ∃ s t : Span, tablesOf (sampleQuery j).toList = [(j.left, s), (j.right, t)] := by
  have hselect : ["from", "join"].any (spells · "SELECT".toList) = false := by decide
  have hfrom : ["from", "join"].any (spells · "FROM".toList) = true := by decide
  have hinner : ["from", "join"].any (spells · "INNER".toList) = false := by decide
  rw [tablesOf, wordsOf_sampleQuery h, sampleFront]
  simp only [place_cons, place_nil, List.cons_append, List.nil_append]
  rw [tableReferences_cons_of_not (isOneOf_of_spells hselect _ _),
    tableReferences_cons_name (isOneOf_of_spells hfrom _ _) isBlankText_space,
    tableReferences_cons_of_not (isOneOf_of_spells hinner _ _), List.map_cons, tableReferences_end,
    h.left_eq, h.right_eq, Word.name, left.ofList_chars]
  exact ⟨_, _, rfl⟩

/-- The list behind SELECT is a star, which stands for columns that are there. -/
theorem unknownColumns_sampleQuery (h : IsWrittenWith j left column right target) (m : Model) :
    unknownColumns m (sampleQuery j).toList = [] := by
  have hselect : spells "select" "SELECT".toList = true := by decide
  have hfrom : spells "from" "FROM".toList = true := by decide
  have hwords := wordsOf_sampleQuery h
  rw [sampleFront, place_cons, place_cons, List.cons_append, List.cons_append] at hwords
  have hlist := selectList?_eq_some hwords (is_of_spells hselect _ _) rfl
    (textBeforeFrom?_from (is_of_spells hfrom _ _) rfl)
  have hstar : trim (trimEnd (trimStart " * ".toList)) = ['*'] := by decide
  rw [unknownColumns, hlist]
  exact if_pos hstar

theorem check_sampleQuery (h : IsWrittenWith j left column right target) {m : Model}
    (hleft : m.hasTable j.left = true) (hright : m.hasTable j.right = true) :
    check (some m) (sampleQuery j) = [] := by
  obtain ⟨s, t, hall⟩ := tablesOf_sampleQuery h
  have htables : ∀ t ∈ tablesOf (sampleQuery j).toList, m.hasTable t.1 = true := by
    rw [hall]
    exact List.forall_mem_cons.2 ⟨hleft, List.forall_mem_singleton.2 hright⟩
  rw [(isFront_sampleFront left).check_eq (sampleQuery_toList h),
    unknownTables_eq_nil htables, unknownColumns_sampleQuery h]
  rfl

end

/-- A join that is found in a schema is over one of its foreign keys.  If the names are identifiers
and the table that the key points at is known, the query that reads a row of the join is one that
the check has nothing against. -/
theorem check_suggestedJoin (docs : List Document) {a b : String} {j : Join}
    (hpath : (modelOf docs).joinPath? a b = some j)
    (hright : (modelOf docs).hasTable j.right = true) :
    (∃ t column r, j.IsOver (modelOf docs) t column r) ∧
      ∀ t column r, j.IsOver (modelOf docs) t column r →
        IsIdentifier t.name → IsIdentifier column → IsIdentifier r.table → IsIdentifier r.column →
        check (some (modelOf docs))
          ("SELECT * FROM " ++ j.left ++ " " ++ j.toString ++ " LIMIT 1") = [] := by
  refine ⟨Schema.exists_isOver_of_joinPath? hpath, ?_⟩
  intro t column r hover hname hcolumn htable htarget
  have hleft : (modelOf docs).hasTable j.left = true := by
    rw [hover.left_eq]
    exact (Schema.named_model _).hasTable_name hover.table_mem
  have hwritten : IsWrittenWith j ⟨t.name, hname⟩ ⟨column, hcolumn⟩ ⟨r.table, htable⟩
      ⟨r.column, htarget⟩ := ⟨hover.left_eq, hover.right_eq, hover.condition_eq⟩
  exact check_sampleQuery hwritten hleft hright

/-- Orders point at their users, whose table is written in another letter case there. -/
def ordersDocument : Document where
  tables := .ofList
    [("users", ⟨none, some "id", .ofList [("id", ⟨some "int", none⟩)], .empty⟩),
     ("orders", ⟨none, none, .ofList [("user_id", ⟨some "int", none⟩)],
        .ofList [("user_id", "Users.id")]⟩)]

/-- The table of the orders, as it is built. -/
def ordersTable : Table where
  name := "orders"
  description := none
  columns := .ofList [("user_id", .ofType "int")]
  primaryKey := none
  foreignKeys := .ofList [("user_id", ⟨"Users", "id"⟩)]

theorem check_join_of_orders :
    (modelOf [ordersDocument]).joinPath? "users" "orders" =
        some ⟨.inner, "orders", "Users", "orders.user_id = Users.id"⟩ ∧
      check (some (modelOf [ordersDocument]))
        "SELECT * FROM orders INNER JOIN Users ON orders.user_id = Users.id LIMIT 1" = [] := by
  have hpath : (modelOf [ordersDocument]).joinPath? "users" "orders" =
      some ⟨.inner, "orders", "Users", "orders.user_id = Users.id"⟩ := by decide
  have hright : (modelOf [ordersDocument]).hasTable "Users" = true := by decide
  have hover : Join.IsOver (modelOf [ordersDocument]) ordersTable "user_id" ⟨"Users", "id"⟩
      ⟨.inner, "orders", "Users", "orders.user_id = Users.id"⟩ :=
    ⟨by decide, by decide, rfl, rfl, rfl⟩
  refine ⟨hpath, ?_⟩
  exact (check_suggestedJoin [ordersDocument] hpath hright).2 ordersTable "user_id" ⟨"Users", "id"⟩
    hover (by decide) (by decide) (by decide) (by decide)

end QueryLint.Query
