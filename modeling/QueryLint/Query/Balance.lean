import QueryLint.Query.Finding
import QueryLint.Text.Words

/-!
# Quotes, parentheses and missing lists

The first check looks at single characters and at pairs of neighbouring keywords.

* `oddlyMany`: a kind of quote occurs an odd number of times.
* `scanParentheses`: parentheses read from the left, with the number of open ones.  The first
  closing parenthesis that closes nothing ends the scan.
* `adjacentSpan?`: two keywords with nothing but white space between them.
-/

namespace QueryLint.Query

open Text

/-- Whether a character occurs an odd number of times. -/
def oddlyMany (c : Char) (cs : List Char) : Bool := cs.count c % 2 == 1

/-- Reads parentheses, `depth` of them open, from offset `pos` on. -/
def scanParentheses (depth pos : Nat) : List Char → List Finding
  | [] => if depth = 0 then [] else [.unclosed depth]
  | c :: cs =>
    if c = '(' then scanParentheses (depth + 1) (pos + c.utf8Size) cs
    else if c = ')' then
      match depth with
      | 0 => [.unexpectedClose pos]
      | d + 1 => scanParentheses d (pos + c.utf8Size) cs
    else scanParentheses depth (pos + c.utf8Size) cs

/-- The span of the first two adjacent words that are the given keywords. -/
def adjacentSpan? (first second : String) (ws : List Word) : Option Span :=
  (adjacentPair? first second ws).map fun p => p.1.span.upTo p.2.1.span

/-- Quotes, parentheses, and lists that are left out. -/
def balanceFindings (query : List Char) : List Finding :=
  let ws := wordsOf query
  (if oddlyMany '\'' query then [.unterminatedString] else []) ++
    (if oddlyMany '"' query then [.unterminatedIdentifier] else []) ++
    scanParentheses 0 0 query ++
    ((adjacentSpan? "from" "where" ws).map Finding.missingTableName).toList ++
    ((adjacentSpan? "select" "from" ws).map Finding.missingColumnList).toList

end QueryLint.Query
