/-
# Criteria.Text.Hexadecimal — numbers in hexadecimal digits

Digits beyond nine may be upper-case or lower-case letters. A row of digits is read as one number of
any size; a row with anything else in it is no number.
-/

namespace Criteria.Text

/-- The value of a hexadecimal digit. -/
def hexDigit? (c : Char) : Option Nat :=
  if '0' ≤ c ∧ c ≤ '9' then some (c.toNat - '0'.toNat)
  else if 'a' ≤ c ∧ c ≤ 'f' then some (c.toNat - 'a'.toNat + 10)
  else if 'A' ≤ c ∧ c ≤ 'F' then some (c.toNat - 'A'.toNat + 10)
  else none

/-- The number that a row of hexadecimal digits continues `value` to. -/
def hexNumberFrom? (value : Nat) : List Char → Option Nat
  | [] => some value
  | c :: rest => (hexDigit? c).bind fun d => hexNumberFrom? (16 * value + d) rest

/-- The number that a row of hexadecimal digits stands for; none for the empty row. -/
def hexNumber? : List Char → Option Nat
  | [] => none
  | digits => hexNumberFrom? 0 digits

end Criteria.Text
