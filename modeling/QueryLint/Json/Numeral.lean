import QueryLint.Json.Reader

/-!
# Numbers in documents

A number is an optional sign, digits without a superfluous zero in front, and optionally a
fraction and an exponent.

## Values

Digits are added up as long as the sum fits in 64 bits, and later ones are dropped: of the whole
part each of them counts as a factor of ten, of the fraction none does.  A number without
fraction, exponent or dropped digits is an integer, unless it is a negative zero or below
-2^63.  Every other number becomes the double that results from one multiplication or division
by a power of ten; a number too great for a double is a fault.

* `Numeral`: the parts of a number, and `Numeral.value`.
* `numberFrom`: a number, its first character taken.
-/

namespace QueryLint.Json

/-- The parts of a number without its sign. -/
structure Numeral where
  /-- The digits in front of the point. -/
  whole : List Char
  /-- The digits behind the point, if there is one. -/
  fraction : Option (List Char)
  /-- Whether the exponent is negative, and its digits. -/
  exponent : Option (Bool × List Char)
  deriving DecidableEq, Repr

/-- The value of a decimal digit. -/
def digitValue (c : Char) : Nat := c.toNat - 48

/-- The number that decimal digits stand for. -/
def digitsValue (ds : List Char) : Nat := ds.foldl (fun n d => 10 * n + digitValue d) 0

/-- What adding up digits gives. -/
structure Absorbed where
  total : Nat
  /-- The number of digits that were added. -/
  taken : Nat
  /-- The number of digits that were left. -/
  dropped : Nat
  deriving DecidableEq, Repr

/-- Adds digits to a number as long as it fits in 64 bits. -/
def absorb (total : Nat) : List Char → Absorbed
  | [] => ⟨total, 0, 0⟩
  | d :: ds =>
    let next := 10 * total + digitValue d
    if next < Nat.pow 2 64 then
      let r := absorb next ds
      ⟨r.total, r.taken + 1, r.dropped⟩
    else ⟨total, 0, ds.length + 1⟩

/-- Divides by a power of ten, in steps that a double can hold. -/
def divideByTen (x : Float) (k : Nat) : Float :=
  if k ≤ 308 then x / Float.ofScientific 1 false k
  else if x == 0 then x
  else divideByTen (x / 1e308) (k - 308)
termination_by k

/-- A double times a power of ten; none if that is too great for a double. -/
def scaleByTen? (x : Float) (e : Int) : Option Float :=
  if e < 0 then some (divideByTen x e.natAbs)
  else if e ≤ 308 then
    let y := x * Float.ofScientific 1 false e.toNat
    if y.isInf then none else some y
  else if x == 0 then some x
  else none

/-- A double with a sign. -/
def signed (negative : Bool) (x : Float) : Number :=
  .binary (if negative then -x else x).toBits

namespace Numeral

/-- The greatest exponent that is taken at its value. -/
def greatestExponent : Nat := Nat.pow 2 31 - 1

/-- The value of a number as a double, if it has one. -/
def double? (n : Numeral) (negative : Bool) : Option Number :=
  let whole := absorb 0 n.whole
  let all := absorb whole.total (n.fraction.getD [])
  let start : Int := (whole.dropped : Int) - all.taken
  let x := all.total.toUInt64.toFloat
  match n.exponent with
  | none => (scaleByTen? x start).map (signed negative)
  | some (down, ds) =>
    let e := digitsValue ds
    if greatestExponent < e then
      if all.total ≠ 0 && !down then none else some (signed negative 0)
    else (scaleByTen? x (if down then start - e else start + e)).map (signed negative)

/-- The value of a number. -/
def value (n : Numeral) (negative : Bool) : Except Fault Number :=
  let whole := absorb 0 n.whole
  let asDouble : Except Fault Number :=
    match n.double? negative with
    | some x => .ok x
    | none => .error .numberOutOfRange
  if n.fraction.isSome || n.exponent.isSome || whole.dropped ≠ 0 then asDouble
  else if !negative then .ok (.natural whole.total)
  else if whole.total = 0 || Nat.pow 2 63 < whole.total then asDouble
  else .ok (.negative whole.total)

end Numeral

/-- The digits that a text begins with. -/
def digits : Reader (List Char) := fun s =>
  .ok ⟨s.takeWhile Char.isDigit, s.dropWhile Char.isDigit,
    (List.dropWhile_suffix Char.isDigit).length_le⟩

/-- One or more digits.  A text that ends in front of them is the fault `ended`. -/
def someDigits (ended : Fault) : Reader (List Char)
  | [] => .error ended
  | c :: cs => if c.isDigit then digits (c :: cs) else .error .invalidNumber

/-- The digits in front of the point, the first of them taken. -/
def wholeFrom (first : Char) : Reader (List Char) := fun s =>
  if first = '0' then
    if s.head?.any Char.isDigit then .error .invalidNumber else .ok (.here s ['0'])
  else (digits s).map fun r => r.map (first :: ·)

/-- The point and the digits behind it, if there is a point. -/
def fractionPart (ended : Fault) : Reader (Option (List Char))
  | '.' :: cs => (someDigits ended cs).map fun r => (r.map some).widenOne
  | s => .ok (.here s none)

/-- The sign of an exponent; the result is whether it is negative. -/
def exponentSign : Reader Bool
  | '-' :: cs => .ok (.afterOne cs true)
  | '+' :: cs => .ok (.afterOne cs false)
  | s => .ok (.here s false)

/-- The sign and the digits behind an `e`. -/
def exponentBody (ended : Fault) : Reader (Option (Bool × List Char)) := do
  let down ← exponentSign
  let ds ← someDigits ended
  return some (down, ds)

/-- The exponent, if there is one. -/
def exponentPart (ended : Fault) : Reader (Option (Bool × List Char))
  | 'e' :: cs => (exponentBody ended cs).map (·.widenOne)
  | 'E' :: cs => (exponentBody ended cs).map (·.widenOne)
  | s => .ok (.here s none)

/-- The parts of a number, its sign and its first digit taken. -/
def numeralFrom (ended : Fault) (first : Char) : Reader Numeral := do
  let whole ← wholeFrom first
  let fraction ← fractionPart ended
  let exponent ← exponentPart ended
  return ⟨whole, fraction, exponent⟩

/-- The parts of a number, its sign taken. -/
def numeral (ended : Fault) : Reader Numeral
  | [] => .error ended
  | c :: cs =>
    if c.isDigit then (numeralFrom ended c cs).map (·.widenOne)
    else .error .invalidNumber

/-- Gives a number its value. -/
def valued (negative : Bool) (n : Numeral) : Reader Number :=
  match n.value negative with
  | .ok v => pure v
  | .error e => Reader.fail e

/-- A number whose first character, a digit or the sign, has been taken. -/
def numberFrom (first : Char) : Reader Number :=
  if first = '-' then do
    let n ← numeral .endInValue
    valued true n
  else do
    let n ← numeralFrom .endInValue first
    valued false n

end QueryLint.Json
