import QueryLint.Proofs.Query.Plain
import QueryLint.Proofs.Query.Quiet

/-!
# Lists of columns

The list behind SELECT, where it consists of qualified columns with a comma and a space between
them.  It is a list of at least one column, so it is given by the first one and the others.

* `columnList`, `columnTokens`: the list as it is written, and its tokens.
* `selectList?_eq_some`: how the list behind SELECT is found.
* `textBeforeFrom?_columns`: the list ends in front of the FROM that follows it.
* `qualifiedPairs_columns`: the columns that are found in the list.
-/

namespace QueryLint.Query

open Text
open Schema (Model)

/-- Columns as they are written behind SELECT. -/
def columnList (c : QualifiedName) (cs : List QualifiedName) : String :=
  ", ".intercalate ((c :: cs).map QualifiedName.text)

/-- Columns as tokens in front of `gap`. -/
def columnTokens (gap : List Char) : QualifiedName → List QualifiedName → List Token
  | c, [] => c.tokens gap
  | c, d :: cs => c.tokens [',', ' '] ++ columnTokens gap d cs

theorem exists_columnTokens_eq (gap : List Char) (c : QualifiedName) (cs : List QualifiedName) :
    ∃ ts, columnTokens gap c cs = (c.table.chars, ['.']) :: ts := by
  cases cs with
  | nil => exact ⟨_, rfl⟩
  | cons d cs => exact ⟨_, rfl⟩

theorem columnList_cons (c d : QualifiedName) (cs : List QualifiedName) :
    columnList c (d :: cs) = c.text ++ ", " ++ columnList d cs := by
  rw [columnList, List.map_cons, List.map_cons, String.intercalate_cons_cons, ← List.map_cons,
    ← columnList]

theorem textOfTokens_tokens (q : QualifiedName) (gap : List Char) :
    textOfTokens (q.tokens gap) = q.text.toList ++ gap := by
  simp [QualifiedName.tokens, QualifiedName.text, Identifier.chars]

theorem textOfTokens_columnTokens (gap : List Char) (c : QualifiedName)
    (cs : List QualifiedName) :
    textOfTokens (columnTokens gap c cs) = (columnList c cs).toList ++ gap := by
  induction cs generalizing c with
  | nil =>
    rw [columnTokens, textOfTokens_tokens, columnList, List.map_singleton,
      String.intercalate_singleton]
  | cons d cs ih =>
    rw [columnTokens, textOfTokens_append, textOfTokens_tokens, ih, columnList_cons]
    simp only [String.toList_append, List.append_assoc]
    rfl

/-! ## The tokens -/

theorem isPlain_of_mem_columnTokens {gap : List Char} (hgap : isPlainGap gap = true)
    (c : QualifiedName) (cs : List QualifiedName) : ∀ t ∈ columnTokens gap c cs, IsPlain t := by
  induction cs generalizing c with
  | nil => exact c.isPlain_of_mem_tokens hgap
  | cons d cs ih =>
    exact List.forall_mem_append.2 ⟨c.isPlain_of_mem_tokens (by decide), ih d⟩

theorem QualifiedName.ne_nil_of_mem_tokens (q : QualifiedName) {gap : List Char} (h : gap ≠ []) :
    ∀ t ∈ q.tokens gap, t.2 ≠ [] :=
  List.forall_mem_cons.2 ⟨List.cons_ne_nil _ _, List.forall_mem_singleton.2 h⟩

theorem ne_nil_of_mem_columnTokens {gap : List Char} (h : gap ≠ []) (c : QualifiedName)
    (cs : List QualifiedName) : ∀ t ∈ columnTokens gap c cs, t.2 ≠ [] := by
  induction cs generalizing c with
  | nil => exact c.ne_nil_of_mem_tokens h
  | cons d cs ih =>
    exact List.forall_mem_append.2 ⟨c.ne_nil_of_mem_tokens (List.cons_ne_nil _ _), ih d⟩

theorem spells_of_mem_columnTokens (gap : List Char) (c : QualifiedName)
    (cs : List QualifiedName) {keyword : String} (h : keyword ∈ reserved) :
    ∀ t ∈ columnTokens gap c cs, spells keyword t.1 = false := by
  induction cs generalizing c with
  | nil => exact c.spells_of_mem_tokens gap h
  | cons d cs ih => exact List.forall_mem_append.2 ⟨c.spells_of_mem_tokens _ h, ih d⟩

theorem QualifiedName.isToken_of_mem_tokens (q : QualifiedName) {gap : List Char}
    (hgap : isPlainGap gap = true) (h : gap ≠ []) : ∀ t ∈ q.tokens gap, IsToken t :=
  fun t ht => (q.isPlain_of_mem_tokens hgap t ht).isToken (q.ne_nil_of_mem_tokens h t ht)

theorem areTokens_columnTokens (c : QualifiedName) (cs : List QualifiedName) :
    AreTokens (columnTokens [] c cs) := by
  induction cs generalizing c with
  | nil =>
    have hdot : IsGap ['.'] := isGap_of_isPlainGap (by decide)
    refine .cons c.table.isWordText_chars hdot (fun _ => List.cons_ne_nil _ _) ?_
    exact .cons c.column.isWordText_chars isGap_nil (fun h => absurd rfl h) .nil
  | cons d cs ih =>
    exact .append (c.isToken_of_mem_tokens (by decide) (List.cons_ne_nil _ _)) (ih d)

/-! ## The list is found -/

/-- The list behind the first word, if that is SELECT. -/
theorem selectList?_eq_some {query : List Char} {w : Word} {ws : List Word} {text : List Char}
    (hwords : wordsOf query = w :: ws) (hselect : w.is "select" = true)
    (hblank : w.beforeBlank = true) (htext : textBeforeFrom? (trimStart w.after) ws = some text) :
    selectList? query = some (trimEnd text) := by
  have hfirst : firstSelect? (w :: ws) = some (w, ws) := by
    rw [firstSelect?, if_pos]
    rw [hselect, hblank]
    rfl
  simp only [selectList?, hwords, hfirst, listBehind?, htext]

/-- A column in the list. -/
theorem textBeforeFrom?_tokens (q : QualifiedName) (after : List Char) (pos : Nat)
    (ws : List Word) (gap : List Char) :
    textBeforeFrom? gap (place pos (q.tokens after) ++ ws) =
      (textBeforeFrom? after ws).map fun text => gap ++ q.text.toList ++ text := by
  have hfrom : "from" ∈ reserved := by decide
  have htable : Word.is ⟨pos, q.table.chars, ['.']⟩ "from" = false := q.table.spells_chars hfrom
  have hcolumn (p : Nat) : Word.is ⟨p, q.column.chars, after⟩ "from" = false :=
    q.column.spells_chars hfrom
  rw [QualifiedName.tokens, place_cons, place_cons, place_nil, List.cons_append, List.cons_append,
    List.nil_append, textBeforeFrom?_cons htable, textBeforeFrom?_cons (hcolumn _), Option.map_map]
  congr 1
  funext text
  simp [QualifiedName.text, Identifier.chars]

/-- Columns go up to the FROM behind them. -/
theorem textBeforeFrom?_columns (c : QualifiedName) (cs : List QualifiedName) (pos : Nat)
    {w : Word} (hw : w.is "from" = true) (ws : List Word) (gap : List Char) :
    textBeforeFrom? gap (place pos (columnTokens [' '] c cs) ++ w :: ws) =
      some (gap ++ (columnList c cs).toList ++ [' ']) := by
  induction cs generalizing c pos gap with
  | nil =>
    rw [columnTokens, textBeforeFrom?_tokens, textBeforeFrom?_from hw rfl, Option.map_some,
      columnList, List.map_singleton, String.intercalate_singleton]
  | cons d cs ih =>
    rw [columnTokens, place_append, List.append_assoc, textBeforeFrom?_tokens, ih, Option.map_some,
      columnList_cons]
    simp only [String.toList_append, List.append_assoc]
    rfl

/-! ## What is found in the list -/

theorem QualifiedName.framed_text (q : QualifiedName) : Framed q.text.toList := by
  have htable := q.table.isWordText_chars
  have hcolumn := q.column.isWordText_chars
  rw [QualifiedName.text, String.toList_append, String.toList_append]
  exact Framed.append (framed_of_isWordChar htable.ne_nil htable.isWordChar) _
    (framed_of_isWordChar hcolumn.ne_nil hcolumn.isWordChar)

theorem framed_columnList (c : QualifiedName) (cs : List QualifiedName) :
    Framed (columnList c cs).toList := by
  induction cs generalizing c with
  | nil =>
    rw [columnList, List.map_singleton, String.intercalate_singleton]
    exact c.framed_text
  | cons d cs ih =>
    rw [columnList_cons, String.toList_append, String.toList_append]
    exact c.framed_text.append _ (ih d)

/-- A list of columns is not a star, since a column has a dot. -/
theorem columnList_ne_star (c : QualifiedName) (cs : List QualifiedName) :
    (columnList c cs).toList ≠ ['*'] := by
  have hdot : '.' ∈ (columnList c cs).toList := by
    cases cs with
    | nil => simp [columnList, QualifiedName.text]
    | cons d cs => simp [columnList_cons, QualifiedName.text]
  intro hstar
  rw [hstar] at hdot
  exact absurd hdot (by decide)

/-- The names in a pair of words. -/
def namesOf (p : Word × Word) : String × String := (p.1.name, p.2.name)

/-- A column is found. -/
theorem qualifiedPairs_tokens (q : QualifiedName) (after : List Char) (pos : Nat)
    (ws : List Word) :
    (qualifiedPairs (place pos (q.tokens after) ++ ws)).map namesOf =
      (q.table.name, q.column.name) :: (qualifiedPairs ws).map namesOf := by
  rw [QualifiedName.tokens, place_cons, place_cons, place_nil, List.cons_append, List.cons_append,
    List.nil_append, qualifiedPairs, if_pos rfl, List.map_cons]
  simp only [namesOf, Word.name, Identifier.ofList_chars]

/-- The columns of a list are found in it. -/
theorem qualifiedPairs_columns (c : QualifiedName) (cs : List QualifiedName) (pos : Nat) :
    (qualifiedPairs (place pos (columnTokens [] c cs))).map namesOf =
      (c :: cs).map fun q => (q.table.name, q.column.name) := by
  induction cs generalizing c pos with
  | nil =>
    have h := qualifiedPairs_tokens c [] pos []
    rw [List.append_nil] at h
    rw [columnTokens, h]
    rfl
  | cons d cs ih =>
    rw [columnTokens, place_append, qualifiedPairs_tokens, ih]
    rfl

/-- The columns that a query refers to, if they are its list. -/
theorem unknownColumns_eq {query : List Char} {c : QualifiedName} {cs : List QualifiedName}
    (hlist : selectList? query = some (columnList c cs).toList) (m : Model) :
    unknownColumns m query =
      ((c :: cs).filter fun q => lacksColumn m q.table.name q.column.name).map
        fun q => .columnNotFound q.table.name q.column.name := by
  have hstar : trim (columnList c cs).toList ≠ ['*'] := by
    rw [(framed_columnList c cs).trim_eq]
    exact columnList_ne_star c cs
  have hwords : wordsOf (columnList c cs).toList = place 0 (columnTokens [] c cs) := by
    rw [← wordsOf_textOfTokens (areTokens_columnTokens c cs), textOfTokens_columnTokens,
      List.append_nil]
  have hnames (ps : List (Word × Word)) :
      (ps.filter fun p => lacksColumn m p.1.name p.2.name).map
          (fun p => Finding.columnNotFound p.1.name p.2.name) =
        ((ps.map namesOf).filter fun n => lacksColumn m n.1 n.2).map
          fun n => .columnNotFound n.1 n.2 := by
    rw [List.filter_map, List.map_map]
    rfl
  simp only [unknownColumns, hlist, if_neg hstar, hwords]
  rw [hnames, qualifiedPairs_columns, List.filter_map, List.map_map]
  rfl

end QueryLint.Query
