/-!
# White space

`isBlank` is the Unicode property White_Space: twenty-five code points.  A query is trimmed of
them before it is read, and they are what separates two neighbouring words.  The zero-width
space, the byte-order mark and the separators U+001C to U+001F are not among them.

* `trimStart`, `trimEnd`, `trim`: a text without the white space at its ends.
* `blankPrefix`: the white space that a text begins with, so that
  `blankPrefix cs ++ trimStart cs = cs`.
-/

namespace QueryLint.Text

/-- The Unicode property White_Space. -/
def isBlank (c : Char) : Bool :=
  let n := c.toNat
  (9 ≤ n && n ≤ 13) || n == 0x20 || n == 0x85 || n == 0xA0 || n == 0x1680 ||
    (0x2000 ≤ n && n ≤ 0x200A) || n == 0x2028 || n == 0x2029 || n == 0x202F ||
    n == 0x205F || n == 0x3000

/-- The white space that a text begins with. -/
def blankPrefix (cs : List Char) : List Char := cs.takeWhile isBlank

/-- A text without the white space it begins with. -/
def trimStart (cs : List Char) : List Char := cs.dropWhile isBlank

/-- A text without the white space it ends in. -/
def trimEnd : List Char → List Char
  | [] => []
  | c :: cs =>
    match trimEnd cs with
    | [] => if isBlank c then [] else [c]
    | d :: ds => c :: d :: ds

/-- A text without the white space at its ends. -/
def trim (cs : List Char) : List Char := trimEnd (trimStart cs)

theorem blankPrefix_append_trimStart (cs : List Char) :
    blankPrefix cs ++ trimStart cs = cs :=
  List.takeWhile_append_dropWhile

@[simp] theorem trimEnd_nil : trimEnd [] = [] := rfl

@[simp] theorem trim_nil : trim [] = [] := rfl

end QueryLint.Text
