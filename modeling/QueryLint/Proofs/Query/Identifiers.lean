import QueryLint.Proofs.Text.Readings

/-!
# Identifiers

An identifier is a name that no check takes for anything else: a word, and none of the keywords
that the checks know, in whatever letter case.  Aggregates are not among these keywords, since
without a parenthesis behind them they mean nothing.

* `IsIdentifier`: a name is an identifier; it can be decided.
* `isIdentifier_of_isDigit`: numbers are identifiers in this sense.
* `Identifier`: a name that is one.
-/

namespace QueryLint.Query

open Text

/-- The keywords that a name must not be. -/
def reserved : List String :=
  ["select", "from", "join", "where", "on", "as", "group", "by", "order", "having", "limit",
   "delete", "update", "drop"]

/-- The name is a word and no keyword. -/
structure IsIdentifier (name : String) : Prop where
  isWordText : IsWordText name.toList
  unreserved : ∀ keyword ∈ reserved, spells keyword name.toList = false

theorem isIdentifier_iff {name : String} :
    IsIdentifier name ↔ name.toList.isEmpty = false ∧ name.toList.all isWordChar = true ∧
      reserved.all (!spells · name.toList) = true := by
  simp only [List.isEmpty_eq_false_iff, List.all_eq_true, Bool.not_eq_true']
  constructor
  · rintro ⟨⟨hne, hchars⟩, hreserved⟩
    exact ⟨hne, hchars, hreserved⟩
  · rintro ⟨hne, hchars, hreserved⟩
    exact ⟨⟨hne, hchars⟩, hreserved⟩

instance (name : String) : Decidable (IsIdentifier name) :=
  decidable_of_iff _ isIdentifier_iff.symm

/-- The digits. -/
def digits : List Char := ['0', '1', '2', '3', '4', '5', '6', '7', '8', '9']

/-- No keyword begins with a digit. -/
theorem head_ne_digit {keyword : String} (hk : keyword ∈ reserved) {d : Char} (hd : d ∈ digits) :
    keyword.toList.head? ≠ some (foldChar d) := by
  have hall : (reserved.all fun keyword =>
      digits.all fun d => keyword.toList.head? != some (foldChar d)) = true := by decide
  exact bne_iff_ne.1 (List.all_eq_true.1 (List.all_eq_true.1 hall keyword hk) d hd)

theorem mem_digits_of_isDigit {c : Char} (h : c.isDigit = true) : c ∈ digits := by
  simp only [Char.isDigit, ge_iff_le, Bool.and_eq_true, decide_eq_true_eq,
    UInt32.le_iff_toNat_le] at h
  have hlow : 48 ≤ c.toNat := h.1
  have hhigh : c.toNat ≤ 57 := h.2
  have hcode : c.toNat ∈ [48, 49, 50, 51, 52, 53, 54, 55, 56, 57] := by
    simp only [List.mem_cons, List.not_mem_nil, or_false]
    omega
  have hall : ∀ n ∈ [48, 49, 50, 51, 52, 53, 54, 55, 56, 57],
      Char.ofNat n ∈ digits := by decide
  exact forall_of_toNat_mem hall hcode

/-- A number is an identifier. -/
theorem isIdentifier_of_isDigit {number : String} (hne : number ≠ "")
    (hnumber : ∀ c ∈ number.toList, c.isDigit = true) : IsIdentifier number := by
  have hnil : number.toList ≠ [] := by simpa using hne
  have hword : digits.all isWordChar = true := by decide
  refine ⟨⟨hnil, fun c hc =>
    List.all_eq_true.1 hword c (mem_digits_of_isDigit (hnumber c hc))⟩, ?_⟩
  intro keyword hk
  obtain ⟨d, ds, hcons⟩ := List.exists_cons_of_ne_nil hnil
  have hd := head_ne_digit hk (mem_digits_of_isDigit (hnumber d (by simp [hcons])))
  rw [← Bool.not_eq_true, spells_iff, hcons]
  intro heq
  rw [← heq] at hd
  exact hd rfl

/-- A name that is an identifier. -/
structure Identifier where
  name : String
  isIdentifier : IsIdentifier name

namespace Identifier

/-- The characters of the name. -/
def chars (i : Identifier) : List Char := i.name.toList

theorem ofList_chars (i : Identifier) : String.ofList i.chars = i.name := String.ofList_toList

theorem byteSize_chars (i : Identifier) : byteSize i.chars = i.name.utf8ByteSize :=
  byteSize_toList i.name

theorem isWordText_chars (i : Identifier) : IsWordText i.chars := i.isIdentifier.isWordText

theorem spells_chars (i : Identifier) {keyword : String} (h : keyword ∈ reserved) :
    spells keyword i.chars = false :=
  i.isIdentifier.unreserved keyword h

end Identifier

end QueryLint.Query
