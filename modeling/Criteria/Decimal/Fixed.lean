/-
# Criteria.Decimal.Fixed — floats with a fixed number of decimal places

The exact value of the float is rounded to the wanted number of places; of two neighbours that are
equally near, the one with the even last digit is taken. There is no exponent, however large the
number, and the sign of the float is kept even where only zeros are left of it.
-/
import Criteria.Decimal.Dyadic

namespace Criteria.Decimal

/-- A quotient rounded to the nearest whole number; halfway between two, to the even one. -/
def roundDiv (num den : Nat) : Nat :=
  let q := num / den
  let r := num % den
  if 2 * r < den then q
  else if den < 2 * r then q + 1
  else if q % 2 = 0 then q else q + 1

/-- The magnitude of a number in units of `10 ^ -places`, rounded. -/
def Dyadic.units (d : Dyadic) (places : Nat) : Nat :=
  if 0 ≤ d.exponent then d.significand * Nat.pow 2 d.exponent.toNat * Nat.pow 10 places
  else roundDiv (d.significand * Nat.pow 10 places) (Nat.pow 2 (-d.exponent).toNat)

/-- The digits of a number below `10 ^ count`, with leading zeros up to `count` places. -/
def padded (count n : Nat) : String :=
  let digits := Nat.toDigits 10 n
  String.ofList (List.replicate (count - digits.length) '0' ++ digits)

/-- A number of units of `10 ^ -places`, written with a decimal point. -/
def pointed (places units : Nat) : String :=
  Nat.repr (units / Nat.pow 10 places) ++ "." ++ padded places (units % Nat.pow 10 places)

/-- A float with the given number of decimal places. -/
def fixed (places : Nat) (x : Float) : String :=
  match Reading.ofFloat x with
  | .nan => "NaN"
  | .infinite negative => if negative then "-inf" else "inf"
  | .finite d => (if d.negative then "-" else "") ++ pointed places (d.units places)

end Criteria.Decimal
