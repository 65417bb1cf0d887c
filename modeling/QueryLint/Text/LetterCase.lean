/-!
# Letter case

Two comparisons ignore the case of letters.  Names of tables and columns are compared with
only the ASCII letters folded.  Keywords are compared by simple case folding, under which two
characters outside ASCII fold to an ASCII letter: the long s and the Kelvin sign.

* `sameIgnoringCase`: equality of names.
* `spells`: a word is a given keyword.
-/

namespace QueryLint.Text

/-- A name with its ASCII letters in lower case. -/
def asciiFold (s : String) : List Char := s.toList.map Char.toLower

/-- Equality of names up to the case of ASCII letters. -/
def sameIgnoringCase (a b : String) : Bool := asciiFold a == asciiFold b

@[simp] theorem sameIgnoringCase_iff {a b : String} :
    sameIgnoringCase a b = true ↔ asciiFold a = asciiFold b := by
  simp [sameIgnoringCase]

/-- Simple case folding, as far as it ends in ASCII. -/
def foldChar (c : Char) : Char :=
  if c == 'ſ' then 's' else if c == '\u212A' then 'k' else c.toLower

/-- Whether the word `w` is the keyword `keyword`, which is given in lower case. -/
def spells (keyword : String) (w : List Char) : Bool := w.map foldChar == keyword.toList

@[simp] theorem spells_iff {keyword : String} {w : List Char} :
    spells keyword w = true ↔ w.map foldChar = keyword.toList := by
  simp [spells]

end QueryLint.Text
