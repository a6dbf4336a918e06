/-
# Criteria.Decimal.Shortest — the fewest digits that read back as the same float

Around every float lies an interval of numbers that round to it. Among the decimal numbers in that
interval the ones with the fewest digits are taken, and among those the nearest to the float. An
interval that holds a number with `n` digits holds one of the two that enclose the float on the grid of
`n` digits, so for each `n` those two are tried, in exact arithmetic; seventeen digits are always
enough.

The ends of the interval belong to it when the significand is even, for then a tie rounds towards the
float. Below a power of two the neighbours are twice as dense, so there the interval reaches only half
as far down.
-/
import Criteria.Decimal.Dyadic

namespace Criteria.Decimal

/-- Which of two equally near numbers is taken. -/
inductive Tie where
  /-- The one of greater magnitude. -/
  | away
  /-- The one whose last digit is even. -/
  | even
  deriving DecidableEq, Repr

/-- The number `d.ddd… * 10 ^ exponent`, in decimal digits without trailing zeros. -/
structure Digits where
  /-- The digits, the first of which stands before the point. -/
  digits : List Char
  /-- The power of ten. -/
  exponent : Int
  deriving DecidableEq, Repr

/-- The numbers that round to a float, as fractions of one denominator. -/
structure Interval where
  low : Nat
  /-- The float itself. -/
  middle : Nat
  high : Nat
  /-- The denominator. -/
  unit : Nat
  closed : Bool

/-- The interval of a float other than zero. -/
def Dyadic.interval (d : Dyadic) : Interval :=
  let m := d.significand
  let dense := m == Nat.pow 2 fractionBits && minExponent < d.exponent
  let low := if dense then 4 * m - 1 else 4 * m - 2
  let quarter := d.exponent - 2
  let scale := if 0 ≤ quarter then Nat.pow 2 quarter.toNat else 1
  ⟨low * scale, 4 * m * scale, (4 * m + 2) * scale,
    if 0 ≤ quarter then 1 else Nat.pow 2 (-quarter).toNat, m % 2 == 0⟩

namespace Interval

/-- The same interval in units of a power of ten. -/
def inUnitsOf (i : Interval) (power : Int) : Interval :=
  if 0 ≤ power then { i with unit := i.unit * Nat.pow 10 power.toNat }
  else
    let scale := Nat.pow 10 (-power).toNat
    { i with low := i.low * scale, middle := i.middle * scale, high := i.high * scale }

/-- Whether a whole number of units lies in the interval. -/
def has (i : Interval) (n : Nat) : Bool :=
  let x := n * i.unit
  if i.closed then i.low ≤ x && x ≤ i.high else i.low < x && x < i.high

/-- The whole number of units in the interval that is nearest to the float, if there is one. -/
def nearest? (tie : Tie) (i : Interval) : Option Nat :=
  let below := i.middle / i.unit
  let rest := 2 * (i.middle % i.unit)
  match i.has below, i.has (below + 1) with
  | true, true =>
    if rest < i.unit then some below
    else if i.unit < rest then some (below + 1)
    else
      match tie with
      | .away => some (below + 1)
      | .even => some (if below % 2 = 0 then below else below + 1)
  | true, false => some below
  | false, true => some (below + 1)
  | false, false => none

/-- The power of ten at the first digit of the float. -/
def leadingExponent (i : Interval) : Int :=
  if i.unit ≤ i.middle then ((Nat.toDigits 10 (i.middle / i.unit)).length : Int) - 1
  else -((Nat.toDigits 10 ((i.unit - 1) / i.middle)).length : Int)

/-- The nearest number with the fewest digits, from `count` digits on, in units of the power of ten
that is given with it; `fuel` bounds how many further counts are tried. -/
def fewest (tie : Tie) (i : Interval) (leading : Int) : Nat → Nat → Nat × Int
  | fuel, count =>
    let power := leading + 1 - count
    let scaled := i.inUnitsOf power
    match scaled.nearest? tie, fuel with
    | some n, _ => (n, power)
    | none, 0 => (scaled.middle / scaled.unit, power)
    | none, fuel + 1 => fewest tie i leading fuel (count + 1)

end Interval

/-- The most digits that a float can need. -/
def maxDigits : Nat := 17

/-- Digits without the zeros at their end; a zero that stands alone stays. -/
def dropTrailingZeros (digits : List Char) : List Char :=
  match (digits.reverse.dropWhile (· == '0')).reverse with
  | [] => ['0']
  | kept => kept

/-- The number of units of a power of ten in decimal digits. -/
def Digits.ofUnits (units : Nat) (power : Int) : Digits :=
  let digits := Nat.toDigits 10 units
  ⟨dropTrailingZeros digits, power + digits.length - 1⟩

/-- The digits of the magnitude of a finite float. -/
def Dyadic.shortest (tie : Tie) (d : Dyadic) : Digits :=
  if d.significand = 0 then ⟨['0'], 0⟩
  else
    let i := d.interval
    let (units, power) := i.fewest tie i.leadingExponent (maxDigits - 1) 1
    Digits.ofUnits units power

end Criteria.Decimal
