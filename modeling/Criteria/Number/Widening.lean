/-
# Criteria.Number.Widening — whole numbers and single precision as double precision

A number of the value model is a binary64 float. Two other number formats reach it:

* 64-bit whole numbers, signed or not, are ROUNDED to the nearest float (a tie goes to the even
  significand); the signed ones through sign and magnitude, which rounds the same way because the
  format is symmetric;
* binary32 floats, given by their bits, are taken over EXACTLY: every one of them is a binary64 float,
  the subnormal ones included. All their NaNs become the one NaN.
-/

namespace Criteria.Number

/-- The float nearest to an unsigned whole number. -/
def ofUInt64 (n : UInt64) : Float := n.toFloat

/-- The float nearest to a signed whole number. -/
def ofInt64 (i : Int64) : Float :=
  if i < 0 then -(UInt64.ofNat i.toInt.natAbs).toFloat else (UInt64.ofNat i.toInt.natAbs).toFloat

/-- The binary64 bits with the given sign, biased exponent and 23-bit fraction. -/
def packWide (sign exponent fraction : UInt64) : UInt64 :=
  sign <<< 63 ||| exponent <<< 52 ||| fraction <<< 29

/-- The binary64 float that a binary32 float, given by its bits, stands for. -/
def ofSingle (bits : UInt32) : Float :=
  let sign : UInt64 := (bits >>> 31).toUInt64
  let exponent : UInt64 := ((bits >>> 23) &&& 0xff).toUInt64
  let fraction : UInt64 := (bits &&& 0x7fffff).toUInt64
  if exponent == 0xff then
    Float.ofBits (packWide sign 0x7ff fraction)
  else if exponent == 0 then
    -- A subnormal is `fraction` steps of 2^-149, and the product is exact.
    let magnitude := fraction.toFloat * Float.ofBits 0x36a0000000000000
    if sign == 0 then magnitude else -magnitude
  else
    Float.ofBits (packWide sign (exponent + 896) fraction)

end Criteria.Number
