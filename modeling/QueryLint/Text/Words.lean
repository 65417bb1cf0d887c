import QueryLint.Text.Blank
import QueryLint.Text.Bytes
import QueryLint.Text.LetterCase
import QueryLint.Text.WordChar

/-!
# Words

Every check of a query looks at its words: the maximal runs of word characters.  `Reading`
is a text cut into words, where each word carries its byte offset and the text between it and
the next word.  Nothing is lost (`Reading.toList_ofChars`), so a check that moves from word to
word sees the whole query.

## Neighbours

Two consecutive words are *adjacent* if only white space lies between them.  Words are maximal,
so what lies between two of them is never empty.

* `Reading.ofChars`: the words of a text.
* `Word.is`: a word is a keyword.
* `Word.next?`: the adjacent next word.
* `adjacentPair?`: the first two adjacent words that are given keywords.
* `qualifiedPairs`: the pairs of words joined by a single dot.
-/

namespace QueryLint.Text

/-- A maximal run of word characters. -/
structure Word where
  /-- The offset of its first byte in the text. -/
  start : Nat
  /-- Its characters. -/
  text : List Char
  /-- The characters between it and the next word, or the end of the text. -/
  after : List Char
  deriving DecidableEq, Repr

/-- A text cut into words. -/
structure Reading where
  /-- The characters in front of the first word. -/
  lead : List Char
  words : List Word
  deriving DecidableEq, Repr

/-- The text of consecutive words, with what follows each of them. -/
def Word.textOf : List Word → List Char
  | [] => []
  | w :: ws => w.text ++ w.after ++ textOf ws

/-- The text that has been read. -/
def Reading.toList (r : Reading) : List Char := r.lead ++ Word.textOf r.words

/-- Puts a word character in front, at offset `pos`. -/
def Reading.push (r : Reading) (pos : Nat) (c : Char) : Reading :=
  match r.lead, r.words with
  | [], w :: ws => ⟨[], ⟨pos, c :: w.text, w.after⟩ :: ws⟩
  | lead, ws => ⟨[], ⟨pos, [c], lead⟩ :: ws⟩

/-- Cuts a text that starts at offset `pos` into words. -/
def Reading.ofChars (pos : Nat) : List Char → Reading
  | [] => ⟨[], []⟩
  | c :: cs =>
    let r := ofChars (pos + c.utf8Size) cs
    if isWordChar c then r.push pos c else ⟨c :: r.lead, r.words⟩

/-- The words of a text. -/
def wordsOf (cs : List Char) : List Word := (Reading.ofChars 0 cs).words

@[simp] theorem Reading.toList_push (r : Reading) (pos : Nat) (c : Char) :
    (r.push pos c).toList = c :: r.toList := by
  obtain ⟨lead, words⟩ := r
  cases lead <;> cases words <;> simp [push, toList, Word.textOf]

@[simp] theorem Reading.toList_ofChars (pos : Nat) (cs : List Char) :
    (ofChars pos cs).toList = cs := by
  induction cs generalizing pos with
  | nil => rfl
  | cons c cs ih =>
    rw [ofChars]
    split
    · simp [ih]
    · simp only [toList, List.cons_append]
      exact congrArg (c :: ·) (ih _)

namespace Word

/-- Whether the word is a keyword, given in lower case. -/
def is (w : Word) (keyword : String) : Bool := spells keyword w.text

/-- Whether the word is one of some keywords. -/
def isOneOf (w : Word) (keywords : List String) : Bool := keywords.any w.is

/-- The bytes of the word. -/
def span (w : Word) : Span := ⟨w.start, byteSize w.text⟩

/-- The word as a name. -/
def name (w : Word) : String := String.ofList w.text

/-- Whether white space directly follows the word. -/
def beforeBlank (w : Word) : Bool :=
  match w.after with
  | [] => false
  | c :: _ => isBlank c

/-- The word that follows with only white space in between, and the words after it. -/
def next? (w : Word) : List Word → Option (Word × List Word)
  | [] => none
  | v :: rest => if w.after.all isBlank then some (v, rest) else none

theorem length_of_next? {w v : Word} {ws rest : List Word} (h : w.next? ws = some (v, rest)) :
    rest.length < ws.length := by
  cases ws with
  | nil => simp [next?] at h
  | cons u us =>
    simp only [next?, Option.ite_none_right_eq_some, Option.some.injEq, Prod.mk.injEq] at h
    obtain ⟨-, -, rfl⟩ := h
    simp

end Word

/-- The first word that is `first` and whose adjacent next word is `second`: the two words and
the words after them. -/
def adjacentPair? (first second : String) : List Word → Option (Word × Word × List Word)
  | w :: v :: rest =>
    if w.is first && w.after.all isBlank && v.is second then some (w, v, rest)
    else adjacentPair? first second (v :: rest)
  | _ => none

/-- The pairs of words with nothing but one dot between them; a word belongs to one pair at
most, and the pairs are taken from the left. -/
def qualifiedPairs : List Word → List (Word × Word)
  | w :: v :: rest =>
    if w.after = ['.'] then (w, v) :: qualifiedPairs rest else qualifiedPairs (v :: rest)
  | _ => []

/-- The text up to the first word that is one of `closers`, and the words after it; without
such a word, all of the text.  `gap` is what stands in front of the words. -/
def textUpTo (closers : List String) (gap : List Char) : List Word → List Char × List Word
  | [] => (gap, [])
  | w :: ws =>
    if w.isOneOf closers then (gap, ws)
    else
      let (text, rest) := textUpTo closers w.after ws
      (gap ++ w.text ++ text, rest)

theorem length_textUpTo_le (closers : List String) (gap : List Char) (ws : List Word) :
    (textUpTo closers gap ws).2.length ≤ ws.length := by
  induction ws generalizing gap with
  | nil => simp [textUpTo]
  | cons w ws ih =>
    rw [textUpTo]
    split
    · simp
    · exact Nat.le_succ_of_le (ih _)

end QueryLint.Text
