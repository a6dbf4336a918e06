/-
# Criteria.Decimal.Reading — the float nearest to a decimal number

A decimal number is a whole number of units of a power of ten. The float is the nearest one, and of
two equally near the one with the even significand. A number too small for any float becomes zero and
keeps its sign; one too large for any float has no float.

The power of ten can be anything, so numbers that are beyond the range of floats by their mere length
are set apart before any power is computed.
-/

namespace Criteria.Decimal

/-- Numbers from this power of ten on are beyond the greatest float. -/
def upperBound : Int := 310

/-- Numbers below this power of ten are nearer to zero than to any other float. -/
def lowerBound : Int := -330

/-- The float nearest to `± units * 10 ^ power`, if there is one. -/
def nearestFloat? (negative : Bool) (units : Nat) (power : Int) : Option Float :=
  let sign := fun (x : Float) => if negative then -x else x
  let magnitude : Int := (Nat.toDigits 10 units).length + power
  if units = 0 ∨ magnitude < lowerBound then some (sign 0.0)
  else if upperBound < magnitude then none
  else
    let x := Float.ofScientific units (power < 0) power.natAbs
    if x.isFinite then some (sign x) else none

end Criteria.Decimal
