import QueryLint.Proofs.Query.Identifiers
import QueryLint.Proofs.Text.Tokens

/-!
# Plain tokens

The queries that are written out in what follows consist of words with hardly anything between
them: spaces, dots, commas, equality signs and stars.  Such a text has no quote, parenthesis,
semicolon or hyphen (`not_mem_textOfTokens`), so that most checks have nothing to look at.

* `IsPlain`: a word with nothing else behind it.
* `QualifiedName`: a column with its table.
* `is_of_mem_place`, `isOneOf_of_mem_place`: no placed word is a keyword if no token is.
-/

namespace QueryLint.Query

open Text

/-- The signs that stand between the words. -/
def plainSigns : List Char := [' ', '.', ',', '=', '*']

/-- Whether a text consists of such signs. -/
def isPlainGap (gap : List Char) : Bool := gap.all plainSigns.contains

/-- A word with nothing but spaces, dots, commas, equality signs and stars behind it. -/
structure IsPlain (t : Token) : Prop where
  text : IsWordText t.1
  after : isPlainGap t.2 = true

theorem isGap_of_isPlainGap {gap : List Char} (h : isPlainGap gap = true) : IsGap gap := by
  have hplain : plainSigns.all (!isWordChar ·) = true := by decide
  intro c hc
  have hsign : c ∈ plainSigns := List.contains_iff_mem.1 (List.all_eq_true.1 h c hc)
  simpa using List.all_eq_true.1 hplain c hsign

theorem IsPlain.isToken {t : Token} (h : IsPlain t) (hne : t.2 ≠ []) : IsToken t :=
  ⟨h.text, isGap_of_isPlainGap h.after, hne⟩

/-- Plain tokens make up a text without any other sign. -/
theorem not_mem_textOfTokens {ts : List Token} (hts : ∀ t ∈ ts, IsPlain t) {c : Char}
    (hword : isWordChar c = false) (hsign : plainSigns.contains c = false) :
    c ∉ textOfTokens ts := by
  intro hc
  obtain ⟨t, ht, hct⟩ := List.mem_flatMap.1 hc
  rcases List.mem_append.1 hct with htext | hafter
  · have htrue := (hts t ht).text.isWordChar c htext
    rw [hword] at htrue
    exact absurd htrue (by simp)
  · have htrue := List.all_eq_true.1 (hts t ht).after c hafter
    rw [hsign] at htrue
    exact absurd htrue (by simp)

theorem Identifier.isPlain (i : Identifier) {gap : List Char} (hgap : isPlainGap gap = true) :
    IsPlain (i.chars, gap) :=
  ⟨i.isWordText_chars, hgap⟩

theorem isPlain_keyword {keyword : String}
    (h : keyword ∈ ["SELECT", "FROM", "INNER", "JOIN", "ON", "LIMIT"]) {gap : List Char}
    (hgap : isPlainGap gap = true) : IsPlain (keyword.toList, gap) := by
  have hall : ∀ keyword ∈ ["SELECT", "FROM", "INNER", "JOIN", "ON", "LIMIT"],
      keyword.toList ≠ [] ∧ keyword.toList.all isWordChar = true := by decide
  obtain ⟨hne, hchars⟩ := hall keyword h
  exact ⟨⟨hne, List.all_eq_true.1 hchars⟩, hgap⟩

/-! ## Qualified names -/

/-- A column with its table. -/
structure QualifiedName where
  table : Identifier
  column : Identifier

/-- The name as it is written. -/
def QualifiedName.text (q : QualifiedName) : String := q.table.name ++ "." ++ q.column.name

/-- The name as tokens in front of `gap`. -/
def QualifiedName.tokens (q : QualifiedName) (gap : List Char) : List Token :=
  [(q.table.chars, ['.']), (q.column.chars, gap)]

theorem QualifiedName.isPlain_of_mem_tokens (q : QualifiedName) {gap : List Char}
    (hgap : isPlainGap gap = true) : ∀ t ∈ q.tokens gap, IsPlain t := by
  refine List.forall_mem_cons.2 ⟨q.table.isPlain (by decide), ?_⟩
  exact List.forall_mem_singleton.2 (q.column.isPlain hgap)

theorem QualifiedName.spells_of_mem_tokens (q : QualifiedName) (gap : List Char)
    {keyword : String} (h : keyword ∈ reserved) :
    ∀ t ∈ q.tokens gap, spells keyword t.1 = false := by
  refine List.forall_mem_cons.2 ⟨q.table.spells_chars h, ?_⟩
  exact List.forall_mem_singleton.2 (q.column.spells_chars h)

/-! ## Keywords among placed words -/

/-- Whether a word is a keyword depends on its characters only. -/
theorem is_of_spells {keyword : String} {text : List Char} {b : Bool}
    (h : spells keyword text = b) (pos : Nat) (gap : List Char) :
    Word.is ⟨pos, text, gap⟩ keyword = b := h

theorem isOneOf_of_spells {keywords : List String} {text : List Char} {b : Bool}
    (h : keywords.any (spells · text) = b) (pos : Nat) (gap : List Char) :
    Word.isOneOf ⟨pos, text, gap⟩ keywords = b := h

/-- Placed words are not a keyword if the tokens are not. -/
theorem is_of_mem_place {keyword : String} {ts : List Token}
    (h : ∀ t ∈ ts, spells keyword t.1 = false) (pos : Nat) :
    ∀ w ∈ place pos ts, w.is keyword = false :=
  fun _ hw => h _ (exists_token_of_mem_place hw)

theorem isOneOf_of_mem_place {keywords : List String} {ts : List Token}
    (h : ∀ keyword ∈ keywords, ∀ t ∈ ts, spells keyword t.1 = false) (pos : Nat) :
    ∀ w ∈ place pos ts, w.isOneOf keywords = false := by
  intro w hw
  rw [Word.isOneOf, List.any_eq_false]
  intro keyword hk
  rw [is_of_mem_place (h keyword hk) pos w hw]
  exact Bool.false_ne_true

end QueryLint.Query
