import QueryLint.Text.Digits
import QueryLint.Toml.Value

/-!
# Values without quotes and brackets

Truth values, numbers, dates and times consist of letters, digits, signs, points, colons and
underscores, and what follows them never begins with one of these.  So such a value is a whole
word, and reading it is deciding what the word is.

## Numbers

An underscore may stand between two digits.  Integers have 64 bits with a sign, and a decimal
one has no superfluous zero in front.  A floating point number may be too small for a double,
and a negative one too great, but a positive one that only infinity is nearest to is refused.

* `integer?`, `isFloat`, `afterDate?`, `afterTime?`.
* `bare?`: the value of a word.
-/

namespace QueryLint.Toml

open Text (digitValue? ofDigits)

/-- The characters of words. -/
def isBare (c : Char) : Bool :=
  c.isAlphanum || c == '+' || c == '-' || c == '_' || c == '.' || c == ':'

/-! ## Numbers -/

/-- Digits, with single underscores between them allowed. -/
def digits? (base : Nat) : List Char → Option (List Nat)
  | [] => none
  | [c] => (digitValue? base c).map ([·])
  | c :: '_' :: cs => do return (← digitValue? base c) :: (← digits? base cs)
  | c :: cs => do return (← digitValue? base c) :: (← digits? base cs)

/-- Decimal digits without a superfluous zero in front. -/
def whole? (cs : List Char) : Option (List Nat) :=
  (digits? 10 cs).filter fun ds => ds.head? != some 0 || ds.length == 1

/-- Whether there is a minus sign, and what follows the sign, if any. -/
def splitSign : List Char → Bool × List Char
  | '+' :: cs => (false, cs)
  | '-' :: cs => (true, cs)
  | cs => (false, cs)

/-- The least natural number that is no integer of 64 bits. -/
def integerBound : Nat := Nat.pow 2 63

/-- An integer, if 64 bits are enough for it. -/
def inRange? (n : Int) : Option Int :=
  if -(integerBound : Int) ≤ n ∧ n < integerBound then some n else none

/-- A natural number in a given base. -/
def based? (base : Nat) (cs : List Char) : Option Int := do
  inRange? (ofDigits base (← digits? base cs))

/-- The integer that a word is. -/
def integer? : List Char → Option Int
  | '0' :: 'x' :: cs => based? 16 cs
  | '0' :: 'o' :: cs => based? 8 cs
  | '0' :: 'b' :: cs => based? 2 cs
  | cs => do
    let (negative, cs) := splitSign cs
    let n := ofDigits 10 (← whole? cs)
    inRange? (if negative then -n else n)

/-- Whether a character begins an exponent. -/
def isExponentMark (c : Char) : Bool := c == 'e' || c == 'E'

/-- The exponent that stands at the end of a number; without one it is zero. -/
def exponent? : List Char → Option Int
  | [] => some 0
  | _ :: cs => do
    let (negative, cs) := splitSign cs
    let n := ofDigits 10 (← digits? 10 cs)
    return if negative then -n else n

/-- The digits behind a point. -/
def fraction? : List Char → Option (List Nat)
  | '.' :: cs => digits? 10 cs
  | _ => some []

/-- The least real number, an integer, that rounds to infinity as a double. -/
def overflowBound : Nat := Nat.pow 2 1024 - Nat.pow 2 970

/-- Whether the digits of a number times a power of ten are too great for a double.  A number
with a digit above the 309th place is, and one without a digit in that place is not. -/
def overflows (ds : List Nat) (e : Int) : Bool :=
  let ds := ds.dropWhile (· == 0)
  let n := ofDigits 10 ds
  let places := ds.length + e
  if ds.isEmpty || places ≤ 308 then false
  else if 310 ≤ places then true
  else if 0 ≤ e then overflowBound ≤ n * Nat.pow 10 e.toNat
  else overflowBound * Nat.pow 10 e.natAbs ≤ n

/-- Whether digits with a fraction, an exponent or both are a number that a double can hold. -/
def isDecimal (negative : Bool) (cs : List Char) : Bool :=
  let mantissa := cs.takeWhile fun c => !isExponentMark c
  let front := mantissa.takeWhile (· != '.')
  let back := mantissa.dropWhile (· != '.')
  let power := cs.dropWhile fun c => !isExponentMark c
  match whole? front, fraction? back, exponent? power with
  | some ds, some fs, some e =>
    !(back.isEmpty && power.isEmpty) && (negative || !overflows (ds ++ fs) (e - fs.length))
  | _, _, _ => false

/-- Whether a word is a floating point number. -/
def isFloat (cs : List Char) : Bool :=
  let (negative, cs) := splitSign cs
  cs == "inf".toList || cs == "nan".toList || isDecimal negative cs

/-! ## Dates and times -/

/-- A number of two digits. -/
def twoDigits? (a b : Char) : Option Nat := digits? 10 [a, b] |>.map (ofDigits 10)

/-- Whether two digits are a number in a range. -/
def twoWithin (least greatest : Nat) (a b : Char) : Bool :=
  (twoDigits? a b).any fun n => least ≤ n && n ≤ greatest

/-- The days of a month. -/
def daysOf (year month : Nat) : Nat :=
  if month = 2 then
    if year % 4 = 0 && (year % 100 ≠ 0 || year % 400 = 0) then 29 else 28
  else if month = 4 || month = 6 || month = 9 || month = 11 then 30
  else 31

/-- What follows the date that a word begins with. -/
def afterDate? : List Char → Option (List Char)
  | a :: b :: c :: d :: '-' :: m :: n :: '-' :: x :: y :: rest => do
    let century ← twoDigits? a b
    let year ← twoDigits? c d
    let month ← twoDigits? m n
    if 1 ≤ month ∧ month ≤ 12 ∧ twoWithin 1 (daysOf (100 * century + year) month) x y then
      return rest
    else none
  | _ => none

/-- What follows the fraction of a second, if there is one. -/
def afterFraction : List Char → List Char
  | '.' :: d :: rest =>
    if d.isDigit then rest.dropWhile Char.isDigit else '.' :: d :: rest
  | rest => rest

/-- What follows the time that a word begins with. -/
def afterTime? : List Char → Option (List Char)
  | a :: b :: ':' :: c :: d :: ':' :: x :: y :: rest =>
    if twoWithin 0 23 a b && twoWithin 0 59 c d && twoWithin 0 60 x y then
      some (afterFraction rest)
    else none
  | _ => none

/-- Whether characters say how far a time is from universal time. -/
def isOffset : List Char → Bool
  | ['Z'] | ['z'] => true
  | [sign, a, b, ':', c, d] =>
    (sign == '+' || sign == '-') && twoWithin 0 23 a b && twoWithin 0 59 c d
  | _ => false

/-- Whether a word is a time that may follow a date. -/
def isTimeOfDate (cs : List Char) : Bool :=
  match afterTime? cs with
  | some rest => rest.isEmpty || isOffset rest
  | none => false

/-- Whether a word is a date, with or without a time, or a time. -/
def isMoment (cs : List Char) : Bool :=
  match afterDate? cs with
  | some [] => true
  | some (c :: rest) => (c == 'T' || c == 't') && isTimeOfDate rest
  | none => afterTime? cs == some []

/-! ## Words -/

/-- The value of a word. -/
def bare? (cs : List Char) : Option Value :=
  if cs = "true".toList then some (.boolean true)
  else if cs = "false".toList then some (.boolean false)
  else
    match integer? cs with
    | some n => some (.integer n)
    | none =>
      if isFloat cs then some (.float (String.ofList cs))
      else if isMoment cs then some (.moment (String.ofList cs))
      else none

end QueryLint.Toml
