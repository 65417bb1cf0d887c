import QueryLint.Proofs.Text.Readings

/-!
# Texts that are made of words

To know the words of a text that is written out, one writes it as tokens: words with what follows
them.  If every word is a word and no two of them touch, the words that are read off the text are
the tokens, each at the place where it comes to stand (`wordsOf_textOfTokens`).

* `Token`, `textOfTokens`: words with what follows them, and the text they make up.
* `IsToken`, `AreTokens`: a token that another one can follow, and tokens one behind the other.
* `place`: the words that tokens are, from an offset on.
-/

namespace QueryLint.Text

/-- A word and what follows it, without a place. -/
abbrev Token := List Char × List Char

/-- The text that tokens make up. -/
def textOfTokens (ts : List Token) : List Char := ts.flatMap fun t => t.1 ++ t.2

/-- The words that tokens are when the first of them stands at offset `pos`. -/
def place (pos : Nat) : List Token → List Word
  | [] => []
  | t :: ts => ⟨pos, t.1, t.2⟩ :: place (pos + byteSize (t.1 ++ t.2)) ts

/-- A token that another one can follow. -/
structure IsToken (t : Token) : Prop where
  text : IsWordText t.1
  after : IsGap t.2
  apart : t.2 ≠ []

/-- Tokens one behind the other, where the last one need not be ready to be followed. -/
inductive AreTokens : List Token → Prop
  | nil : AreTokens []
  | cons {t : Token} {ts : List Token} (text : IsWordText t.1) (after : IsGap t.2)
      (apart : ts ≠ [] → t.2 ≠ []) (rest : AreTokens ts) : AreTokens (t :: ts)

@[simp] theorem textOfTokens_nil : textOfTokens [] = [] := rfl

@[simp] theorem textOfTokens_cons (t : Token) (ts : List Token) :
    textOfTokens (t :: ts) = t.1 ++ t.2 ++ textOfTokens ts := rfl

@[simp] theorem textOfTokens_append (ts us : List Token) :
    textOfTokens (ts ++ us) = textOfTokens ts ++ textOfTokens us :=
  List.flatMap_append

@[simp] theorem place_nil (pos : Nat) : place pos [] = [] := rfl

@[simp] theorem place_cons (pos : Nat) (t : Token) (ts : List Token) :
    place pos (t :: ts) = ⟨pos, t.1, t.2⟩ :: place (pos + byteSize (t.1 ++ t.2)) ts := rfl

theorem place_append (pos : Nat) (ts us : List Token) :
    place pos (ts ++ us) = place pos ts ++ place (pos + byteSize (textOfTokens ts)) us := by
  induction ts generalizing pos with
  | nil => simp
  | cons t ts ih =>
    rw [List.cons_append, place_cons, ih, place_cons, textOfTokens_cons, List.cons_append,
      byteSize_append (t.1 ++ t.2), Nat.add_assoc]

@[simp] theorem textOf_place (pos : Nat) (ts : List Token) :
    Word.textOf (place pos ts) = textOfTokens ts := by
  induction ts generalizing pos with
  | nil => rfl
  | cons t ts ih => rw [place_cons, Word.textOf_cons, ih, textOfTokens_cons]

/-- A placed word is one of the tokens. -/
theorem exists_token_of_mem_place {pos : Nat} {ts : List Token} {w : Word}
    (h : w ∈ place pos ts) : (w.text, w.after) ∈ ts := by
  induction ts generalizing pos with
  | nil => exact absurd h List.not_mem_nil
  | cons t ts ih =>
    rcases List.mem_cons.1 h with rfl | h
    · exact List.mem_cons_self
    · exact List.mem_cons_of_mem t (ih h)

theorem AreTokens.append {ts us : List Token} (hts : ∀ t ∈ ts, IsToken t) (hus : AreTokens us) :
    AreTokens (ts ++ us) := by
  induction ts with
  | nil => exact hus
  | cons t ts ih =>
    obtain ⟨ht, hts⟩ := List.forall_mem_cons.1 hts
    exact .cons ht.text ht.after (fun _ => ht.apart) (ih hts)

theorem areTokens_of_isToken {ts : List Token} (hts : ∀ t ∈ ts, IsToken t) : AreTokens ts := by
  have h : AreTokens (ts ++ []) := .append hts .nil
  rwa [List.append_nil] at h

theorem AreTokens.laid_place {ts : List Token} (h : AreTokens ts) (pos : Nat) :
    Word.Laid pos (place pos ts) := by
  induction h generalizing pos with
  | nil => exact .nil pos
  | @cons t ts text after apart _ ih =>
    refine .cons rfl text after ?_ (ih _)
    intro hne
    refine apart ?_
    rintro rfl
    exact hne rfl

/-- The words of a text of tokens. -/
theorem wordsOf_textOfTokens {ts : List Token} (h : AreTokens ts) :
    wordsOf (textOfTokens ts) = place 0 ts := by
  have hwords := wordsOf_append_textOf isGap_nil (h.laid_place 0)
  rwa [textOf_place] at hwords

end QueryLint.Text
