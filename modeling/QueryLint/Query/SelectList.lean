import QueryLint.Text.Words

/-!
# The list between SELECT and FROM

The list starts behind the white space after the first SELECT that white space follows, and it
ends before the white space in front of the next FROM.  A FROM that stands directly at the
start of the list does not close it, since no white space is left in front of it; only if no
other FROM does, and there are two white-space characters to share, the list is empty.

* `selectList?`: the list.
-/

namespace QueryLint.Query

open Text

/-- Whether a text ends in white space. -/
def endsBlank : List Char → Bool
  | [] => false
  | [c] => isBlank c
  | _ :: c :: cs => endsBlank (c :: cs)

/-- The text up to the first FROM that stands behind white space; `gap` is what stands in front
of the words. -/
def textBeforeFrom? (gap : List Char) : List Word → Option (List Char)
  | [] => none
  | w :: ws =>
    if endsBlank gap && w.is "from" then some gap
    else (textBeforeFrom? w.after ws).map fun text => gap ++ w.text ++ text

/-- The first SELECT that white space follows, and the words after it. -/
def firstSelect? : List Word → Option (Word × List Word)
  | [] => none
  | w :: ws => if w.is "select" && w.beforeBlank then some (w, ws) else firstSelect? ws

/-- The list behind a SELECT. -/
def listBehind? (select : Word) (ws : List Word) : Option (List Char) :=
  match textBeforeFrom? (trimStart select.after) ws with
  | some text => some (trimEnd text)
  | none =>
    match select.next? ws with
    | some (v, _) => if v.is "from" && 2 ≤ select.after.length then some [] else none
    | none => none

/-- The text between the first SELECT and its FROM. -/
def selectList? (query : List Char) : Option (List Char) :=
  match firstSelect? (wordsOf query) with
  | some (select, ws) => listBehind? select ws
  | none => none

end QueryLint.Query
