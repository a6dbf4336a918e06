/-
# Criteria.Decimal.Spelling — how the digits of a float are written down

The digits of a float can be written with the point in its place or with a power of ten. A `Spelling`
says which exponents are written positionally and how a power of ten looks; it also says what stands
for the floats that are no numbers. Positional text always has a point, with a zero after it if need
be.
-/
import Criteria.Decimal.Shortest

namespace Criteria.Decimal

/-- How floats are written. -/
structure Spelling where
  tie : Tie
  /-- The exponents that are written with the point in its place. -/
  isPositional : Int → Bool
  /-- What introduces an exponent that is not negative. -/
  exponentMark : String
  nan : String
  /-- What stands for an infinity, given whether it is negative. -/
  infinity : Bool → String

namespace Digits

/-- The point in its place. -/
def positional (d : Digits) : String :=
  if d.exponent < 0 then
    "0." ++ String.ofList (List.replicate (-d.exponent - 1).toNat '0' ++ d.digits)
  else
    let whole := d.exponent.toNat + 1
    let fraction := d.digits.drop whole
    String.ofList (d.digits.take whole ++ List.replicate (whole - d.digits.length) '0')
      ++ "." ++ (if fraction.isEmpty then "0" else String.ofList fraction)

/-- One digit before the point, and a power of ten. -/
def scientific (mark : String) (d : Digits) : String :=
  let fraction := d.digits.drop 1
  String.ofList (d.digits.take 1)
    ++ (if fraction.isEmpty then "" else "." ++ String.ofList fraction)
    ++ (if d.exponent < 0 then "e-" else mark) ++ Nat.repr d.exponent.natAbs

end Digits

/-- A float spelled out. -/
def Spelling.write (n : Spelling) (x : Float) : String :=
  match Reading.ofFloat x with
  | .nan => n.nan
  | .infinite negative => n.infinity negative
  | .finite d =>
    let digits := d.shortest n.tie
    (if d.negative then "-" else "")
      ++ (if n.isPositional digits.exponent then digits.positional
        else digits.scientific n.exponentMark)

end Criteria.Decimal
