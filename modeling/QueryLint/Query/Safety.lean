import QueryLint.Query.Finding
import QueryLint.Text.Words

/-!
# Dangerous statements and marks of injection

Some queries are complete and still dangerous: a change of every row, a read of every row, and
three marks that injected text leaves behind.  The marks are looked for everywhere in the
query, strings and comments included.

* `dropSpan?`: a statement terminator in front of DROP.
* `commentSpan?`: a comment marker at the end.
* `tautologySpan?`: the condition `' OR '1'='1`.
* `safetyFindings`: the check.
-/

namespace QueryLint.Query

open Text

/-- The first word that is one of some keywords. -/
def firstOf? (keywords : List String) (ws : List Word) : Option Word :=
  ws.find? (·.isOneOf keywords)

/-- The first semicolon that DROP follows, from offset `pos` on; white space may stand in
between. -/
def dropSpan? (pos : Nat) : List Char → Option Span
  | [] => none
  | c :: cs =>
    let word := (trimStart cs).takeWhile isWordChar
    if c = ';' && spells "drop" word then
      some ⟨pos, byteSize (c :: (blankPrefix cs ++ word))⟩
    else dropSpan? (pos + c.utf8Size) cs

/-- The comment marker that the query ends in. -/
def commentSpan? (pos : Nat) : List Char → Option Span
  | [] => none
  | c :: cs => if c :: cs = ['-', '-'] then some ⟨pos, 2⟩ else commentSpan? (pos + c.utf8Size) cs

/-- What a text leaves after `part`, if it starts with that. -/
def after? : List Char → List Char → Option (List Char)
  | [], cs => some cs
  | _ :: _, [] => none
  | p :: ps, c :: cs => if c = p then after? ps cs else none

/-- What a text leaves after OR and the white space behind it, which must not be missing. -/
def afterOr? : List Char → Option (List Char)
  | o :: r :: b :: cs =>
    if spells "or" [o, r] && isBlank b then some (trimStart cs) else none
  | _ => none

/-- What a text leaves after the condition `' OR '1'='1`, if it starts with that.  White space
may stand in front of OR and around the equality sign. -/
def afterTautology? (cs : List Char) : Option (List Char) := do
  let cs ← after? ['\''] cs
  let cs ← afterOr? (trimStart cs)
  let cs ← after? ['\'', '1', '\''] cs
  let cs ← after? ['='] (trimStart cs)
  after? ['\'', '1'] (trimStart cs)

/-- The first condition `' OR '1'='1`, from offset `pos` on. -/
def tautologySpan? (pos : Nat) : List Char → Option Span
  | [] => none
  | c :: cs =>
    match afterTautology? (c :: cs) with
    | some rest => some ⟨pos, byteSize (c :: cs) - byteSize rest⟩
    | none => tautologySpan? (pos + c.utf8Size) cs

/-- A change of every row. -/
def mutationFinding? (ws : List Word) : Option Finding :=
  match firstOf? ["delete", "update"] ws with
  | some w =>
    if ws.any (·.is "where") then none
    else some (.unfilteredMutation (String.ofList (w.text.map Char.toUpper)) w.span)
  | none => none

/-- Changes and reads of every row, and marks of injection. -/
def safetyFindings (query : List Char) : List Finding :=
  let ws := wordsOf query
  (mutationFinding? ws).toList ++
    (if ws.any (·.is "select") && !ws.any (·.is "limit") then [.unboundedSelect] else []) ++
    ((dropSpan? 0 query).map Finding.injectedDrop).toList ++
    ((commentSpan? 0 query).map Finding.injectedComment).toList ++
    ((tautologySpan? 0 query).map Finding.injectedTautology).toList

end QueryLint.Query
