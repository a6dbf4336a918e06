/-
# Criteria.Json.Reader — JSON text as documents

The reader accepts the JSON grammar and no more: no comments, no trailing commas, no leading zeros, no
control characters in strings, no escapes that stand for half a surrogate pair. White space may stand
around the document and between its parts, and nothing may follow it.

Two bounds are not in the grammar: arrays and objects nest at most `depthLimit` deep, and a number
beyond the greatest float is refused. A number too small for a float is zero.

All readers take the characters still to come and give back what remains. Where one has to call
itself again, `fuel` bounds how often: twice the number of characters is enough, because two calls in
a row read at least one.
-/
import Criteria.Decimal.Reading
import Criteria.Json.Basic
import Criteria.Text.Hexadecimal

namespace Criteria.Json

/-- How deep arrays and objects may nest. -/
def depthLimit : Nat := 127

/-- The white space of JSON. -/
def isBlank (c : Char) : Bool := c == ' ' || c == '\t' || c == '\n' || c == '\r'

/-- What follows the white space. -/
def skipBlank (cs : List Char) : List Char := cs.dropWhile isBlank

/-! ## Strings -/

/-- Four hexadecimal digits. -/
def readUnit : List Char → Option (Nat × List Char)
  | a :: b :: c :: d :: rest => (Text.hexNumber? [a, b, c, d]).map fun n => (n, rest)
  | _ => none

/-- Whether a 16-bit unit is the first half of a pair. -/
def isHighHalf (n : Nat) : Bool := 0xd800 ≤ n && n < 0xdc00

/-- Whether a 16-bit unit is the second half of a pair. -/
def isLowHalf (n : Nat) : Bool := 0xdc00 ≤ n && n < 0xe000

/-- The character that a numeric escape stands for, or that two of them stand for together; the `u`
of the first has been read. -/
def readCode (cs : List Char) : Option (Char × List Char) :=
  match readUnit cs with
  | none => none
  | some (unit, rest) =>
    if isLowHalf unit then none
    else if isHighHalf unit then
      match rest with
      | '\\' :: 'u' :: more =>
        match readUnit more with
        | some (low, after) =>
          if isLowHalf low then
            some (Char.ofNat (0x10000 + (unit - 0xd800) * 0x400 + (low - 0xdc00)), after)
          else none
        | none => none
      | _ => none
    else some (Char.ofNat unit, rest)

/-- The character that an escape stands for; the backslash has been read. -/
def readEscape : List Char → Option (Char × List Char)
  | '"' :: rest => some ('"', rest)
  | '\\' :: rest => some ('\\', rest)
  | '/' :: rest => some ('/', rest)
  | 'b' :: rest => some ('\x08', rest)
  | 'f' :: rest => some ('\x0c', rest)
  | 'n' :: rest => some ('\n', rest)
  | 'r' :: rest => some ('\r', rest)
  | 't' :: rest => some ('\t', rest)
  | 'u' :: rest => readCode rest
  | _ => none

/-- The characters of a string up to its closing quote; the opening one has been read. -/
def readChars : Nat → List Char → Option (List Char × List Char)
  | 0, _ => none
  | _ + 1, [] => none
  | _ + 1, '"' :: rest => some ([], rest)
  | fuel + 1, '\\' :: rest =>
    match readEscape rest with
    | some (c, more) => (readChars fuel more).map fun p => (c :: p.1, p.2)
    | none => none
  | fuel + 1, c :: rest =>
    if c.toNat < 0x20 then none else (readChars fuel rest).map fun p => (c :: p.1, p.2)

/-- A string up to its closing quote; the opening one has been read. -/
def readString (fuel : Nat) (cs : List Char) : Option (String × List Char) :=
  (readChars fuel cs).map fun p => (String.ofList p.1, p.2)

/-! ## Numbers -/

/-- The number that decimal digits stand for. -/
def decimalNumber (digits : List Char) : Nat := Nat.ofDigitChars 10 digits 0

/-- One digit or more. -/
def readDigits (cs : List Char) : Option (List Char × List Char) :=
  match cs.takeWhile Char.isDigit with
  | [] => none
  | digits => some (digits, cs.dropWhile Char.isDigit)

/-- The digits before the point; a zero stands alone. -/
def readWhole (cs : List Char) : Option (List Char × List Char) :=
  match readDigits cs with
  | some ('0' :: _ :: _, _) => none
  | other => other

/-- The digits after the point, if there is one. -/
def readFraction : List Char → Option (List Char × List Char)
  | '.' :: rest => readDigits rest
  | cs => some ([], cs)

/-- The exponent after its letter. -/
def readPower : List Char → Option (Int × List Char)
  | '+' :: rest => (readDigits rest).map fun p => ((decimalNumber p.1 : Int), p.2)
  | '-' :: rest => (readDigits rest).map fun p => (-(decimalNumber p.1 : Int), p.2)
  | cs => (readDigits cs).map fun p => ((decimalNumber p.1 : Int), p.2)

/-- The exponent, if there is one. -/
def readExponent : List Char → Option (Option Int × List Char)
  | 'e' :: rest => (readPower rest).map fun p => (some p.1, p.2)
  | 'E' :: rest => (readPower rest).map fun p => (some p.1, p.2)
  | cs => some (none, cs)

/-- The document for a number without a fraction or an exponent: a whole number if 64 bits hold it,
and a float otherwise. A zero with a sign is a float, which has one. -/
def ofWhole? (negative : Bool) (n : Nat) : Option Json :=
  if !negative && n < Nat.pow 2 64 then some (.integer n)
  else if negative && n != 0 && n ≤ Nat.pow 2 63 then some (.integer (-(n : Int)))
  else (Decimal.nearestFloat? negative n 0).map .float

/-- A number. -/
def readNumber (cs : List Char) : Option (Json × List Char) := do
  let (negative, body) :=
    match cs with
    | '-' :: rest => (true, rest)
    | _ => (false, cs)
  let (whole, afterWhole) ← readWhole body
  let (fraction, afterFraction) ← readFraction afterWhole
  let (exponent, rest) ← readExponent afterFraction
  let n := decimalNumber (whole ++ fraction)
  match fraction, exponent with
  | [], none => (ofWhole? negative n).map fun j => (j, rest)
  | _, _ =>
    (Decimal.nearestFloat? negative n (exponent.getD 0 - fraction.length)).map fun x =>
      (.float x, rest)

/-! ## Documents -/

mutual

/-- A document that nests at most `depth` deep. -/
def readValue : Nat → Nat → List Char → Option (Json × List Char)
  | 0, _, _ => none
  | fuel + 1, depth, cs =>
    match skipBlank cs, depth with
    | 'n' :: 'u' :: 'l' :: 'l' :: rest, _ => some (.null, rest)
    | 't' :: 'r' :: 'u' :: 'e' :: rest, _ => some (.bool true, rest)
    | 'f' :: 'a' :: 'l' :: 's' :: 'e' :: rest, _ => some (.bool false, rest)
    | '"' :: rest, _ => (readString fuel rest).map fun p => (.str p.1, p.2)
    | '[' :: _, 0 => none
    | '{' :: _, 0 => none
    | '[' :: rest, depth + 1 =>
      match skipBlank rest with
      | ']' :: after => some (.arr [], after)
      | _ => (readItems fuel depth rest).map fun p => (.arr p.1, p.2)
    | '{' :: rest, depth + 1 =>
      match skipBlank rest with
      | '}' :: after => some (.obj [], after)
      | _ => (readMembers fuel depth rest).map fun p => (.obj p.1, p.2)
    | other, _ => readNumber other

/-- The items of an array, one or more, up to its closing bracket. -/
def readItems : Nat → Nat → List Char → Option (List Json × List Char)
  | 0, _, _ => none
  | fuel + 1, depth, cs =>
    match readValue fuel depth cs with
    | some (j, rest) =>
      match skipBlank rest with
      | ',' :: more => (readItems fuel depth more).map fun p => (j :: p.1, p.2)
      | ']' :: after => some ([j], after)
      | _ => none
    | none => none

/-- The members of an object, one or more, up to its closing brace. -/
def readMembers : Nat → Nat → List Char → Option (List (String × Json) × List Char)
  | 0, _, _ => none
  | fuel + 1, depth, cs =>
    match skipBlank cs with
    | '"' :: start =>
      match readString fuel start with
      | some (key, afterKey) =>
        match skipBlank afterKey with
        | ':' :: body =>
          match readValue fuel depth body with
          | some (j, rest) =>
            match skipBlank rest with
            | ',' :: more => (readMembers fuel depth more).map fun p => ((key, j) :: p.1, p.2)
            | '}' :: after => some ([(key, j)], after)
            | _ => none
          | none => none
        | _ => none
      | none => none
    | _ => none

end

/-- The document that a text is, if it is one. -/
def ofText? (text : String) : Option Json :=
  let cs := text.toList
  match readValue (2 * cs.length + 2) depthLimit cs with
  | some (j, rest) => if (skipBlank rest).isEmpty then some j else none
  | none => none

end Criteria.Json
