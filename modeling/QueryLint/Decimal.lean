/-!
# Binary floating-point numbers in decimal

A double is written with the fewest significant digits that read back to it, and of those with
the ones nearest to it.  The digits are found by exact arithmetic: a double `m · 2^q` is what
every real number of a certain interval rounds to, and on the grid of `n` significant digits
only the two neighbours of the double can lie in that interval, if any point does.

* `Binary64.ofBits`: the mantissa and exponent of a finite double.
* `Binary64.shortest`: its digits and their decimal exponent.
* `DecimalLayout.render`: digits laid out as text.
-/

namespace QueryLint

/-- A positive finite double `mantissa · 2^exponent`. -/
structure Binary64 where
  mantissa : Nat
  exponent : Int
  /-- Whether the double below is only half as far as the one above. -/
  narrow : Bool
  deriving DecidableEq, Repr

namespace Binary64

/-- The magnitude that the low 63 bits of a finite double stand for. -/
def ofBits (bits : Nat) : Binary64 :=
  let fraction : Nat := bits % Nat.pow 2 52
  let biased : Nat := bits / Nat.pow 2 52 % Nat.pow 2 11
  if biased = 0 then ⟨fraction, -1074, false⟩
  else ⟨fraction + Nat.pow 2 52, (biased : Int) - 1075, fraction = 0 && 1 < biased⟩

/-- A power of two or ten with an exponent of either sign, as a fraction. -/
def power (base : Nat) (e : Int) : Nat × Nat :=
  if 0 ≤ e then (Nat.pow base e.toNat, 1) else (1, Nat.pow base (-e).toNat)

/-- Four times the double as a fraction with the denominator of `10^e`, and the same of the
ends of its interval: numerators of the low end, of the double and of the high end, and the
common denominator. -/
def scaled (x : Binary64) (e : Int) : Nat × Nat × Nat × Nat :=
  let (num, den) := power 2 x.exponent
  let (tenNum, tenDen) := power 10 e
  let unit := num * tenDen
  ((4 * x.mantissa - (if x.narrow then 1 else 2)) * unit, 4 * x.mantissa * unit,
    (4 * x.mantissa + 2) * unit, 4 * den * tenNum)

/-- The multiple of `10^e` that lies in the interval of the double, if there is one; of two,
the nearer one, and of two equally near ones the even one. -/
def onGrid? (x : Binary64) (e : Int) : Option Nat :=
  let (low, mid, high, den) := x.scaled e
  let fits (d : Nat) : Bool :=
    if x.mantissa % 2 = 0 then low ≤ d * den && d * den ≤ high
    else low < d * den && d * den < high
  let below := mid / den
  let above := below + 1
  let toBelow := mid - below * den
  let toAbove := above * den - mid
  if fits below && (!fits above || toBelow < toAbove || (toBelow = toAbove && below % 2 = 0)) then
    some below
  else if fits above then some above
  else none

/-- The least `k` at which `10^k` exceeds the double, searched from `k` on. -/
def magnitude (x : Binary64) (k : Int) : Nat → Int
  | 0 => k
  | fuel + 1 =>
    let (_, mid, _, den) := x.scaled k
    if mid < den then k else magnitude x (k + 1) fuel

/-- The first grid, from `digits` significant digits on, that has a point in the interval. -/
def shortestFrom (x : Binary64) (k : Int) (digits : Nat) : Nat → Nat × Int
  | 0 => (0, 0)
  | fuel + 1 =>
    let e := k - digits
    match x.onGrid? e with
    | some d => (d, e)
    | none => shortestFrom x k (digits + 1) fuel

/-- The shortest `d · 10^e` that reads back to the double. -/
def shortest (x : Binary64) : Nat × Int :=
  if x.mantissa = 0 then (0, 0) else x.shortestFrom (x.magnitude (-330) 650) 1 17

end Binary64

/-- How digits and an exponent are laid out. -/
structure DecimalLayout where
  /-- The least decimal exponent that is written without an exponent. -/
  leastFixed : Int
  /-- The greatest decimal exponent that is written without an exponent. -/
  greatestFixed : Int
  deriving DecidableEq, Repr

namespace DecimalLayout

/-- The digits without zeros at the end. -/
def stripZeros (ds : List Char) : List Char := (ds.reverse.dropWhile (· == '0')).reverse

/-- The text of `d · 10^e`: positional with at least one digit on either side of the point, or
one digit in front of the point and a signed exponent. -/
def render (layout : DecimalLayout) (d : Nat) (e : Int) : String :=
  if d = 0 then "0.0"
  else
    let ds := Nat.toDigits 10 d
    let lead := e + ds.length - 1
    let short := stripZeros ds
    if layout.leastFixed ≤ lead && lead ≤ layout.greatestFixed then
      if lead < 0 then
        "0." ++ String.ofList (List.replicate (-lead - 1).toNat '0' ++ short)
      else
        let whole := lead.toNat + 1
        let padded := short ++ List.replicate (whole - short.length) '0'
        let fraction := padded.drop whole
        String.ofList (padded.take whole) ++ "." ++
          (if fraction.isEmpty then "0" else String.ofList fraction)
    else
      let tail := short.drop 1
      String.ofList (short.take 1) ++
        (if tail.isEmpty then "" else "." ++ String.ofList tail) ++
        "e" ++ (if lead < 0 then "-" else "+") ++ lead.natAbs.repr

end DecimalLayout

/-- The text of a finite double, given by its bits. -/
def renderBinary64 (layout : DecimalLayout) (bits : UInt64) : String :=
  let (d, e) := (Binary64.ofBits (bits.toNat % Nat.pow 2 63)).shortest
  (if bits.toNat < Nat.pow 2 63 then "" else "-") ++ layout.render d e

end QueryLint
