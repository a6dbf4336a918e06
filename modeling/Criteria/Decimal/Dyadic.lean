/-
# Criteria.Decimal.Dyadic — the exact value of a float

Every finite float is a whole number times a power of two. Texts of floats are worked out from that
pair in exact arithmetic; `Reading` tells it from the floats that have no such value.
-/

namespace Criteria.Decimal

/-- The number `± significand * 2 ^ exponent`. The sign counts for zero, too. -/
structure Dyadic where
  negative : Bool
  significand : Nat
  exponent : Int
  deriving DecidableEq, Repr

/-- What a float is. -/
inductive Reading where
  | nan
  | infinite (negative : Bool)
  | finite (d : Dyadic)
  deriving DecidableEq, Repr

/-- The significand of a float has one bit more than this, unless the float is subnormal. -/
def fractionBits : Nat := 52

/-- The exponent of the smallest floats. -/
def minExponent : Int := -1074

/-- What the binary64 float with the given bits is. -/
def Reading.ofBits (bits : Nat) : Reading :=
  let negative := bits / Nat.pow 2 63 % 2 == 1
  let biased : Nat := bits / Nat.pow 2 fractionBits % Nat.pow 2 11
  let fraction : Nat := bits % Nat.pow 2 fractionBits
  if biased = 0x7ff then
    if fraction = 0 then .infinite negative else .nan
  else if biased = 0 then
    .finite ⟨negative, fraction, minExponent⟩
  else
    .finite ⟨negative, fraction + Nat.pow 2 fractionBits, minExponent + (biased : Int) - 1⟩

/-- What a float is. -/
def Reading.ofFloat (x : Float) : Reading := .ofBits x.toBits.toNat

end Criteria.Decimal
