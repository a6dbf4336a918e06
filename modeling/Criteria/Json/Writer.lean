/-
# Criteria.Json.Writer — JSON documents as text

The text is compact: no blank stands between its parts. In strings the quote, the backslash and the
characters below the blank are escaped, and nothing else. Floats are written with the fewest digits
that read back, positionally for moderate exponents and then always with a point, so that a float
stays a float; what is not a number is written as null.
-/
import Criteria.Decimal.Spelling
import Criteria.Json.Basic
import Criteria.Text.Quoted

namespace Criteria.Json

open Criteria.Text

/-- Floats in JSON: from `10 ^ -5` to below `10 ^ 16` the point stands in its place, other exponents
have a sign. -/
def spelling : Decimal.Spelling where
  tie := .even
  isPositional e := -5 ≤ e && e < 16
  exponentMark := "e+"
  nan := "null"
  infinity _ := "null"

/-- The escaped form of a character below the blank that has no letter of its own. -/
def escapeControl (c : Char) : List Char :=
  let n := c.toNat
  ['\\', 'u', '0', '0', Nat.digitChar (n / 16), Nat.digitChar (n % 16)]

/-- A character as it stands in a string. -/
def escapeChar : Char → List Char
  | '"' => ['\\', '"']
  | '\\' => ['\\', '\\']
  | '\x08' => ['\\', 'b']
  | '\x0c' => ['\\', 'f']
  | '\n' => ['\\', 'n']
  | '\r' => ['\\', 'r']
  | '\t' => ['\\', 't']
  | c => if c.toNat < 0x20 then escapeControl c else [c]

/-- The characters of a text as they stand in a string. -/
def escape : List Char → List Char
  | [] => []
  | c :: rest => escapeChar c ++ escape rest

/-- A text as a string of JSON. -/
def writeString (s : String) : String := String.ofList ('"' :: (escape s.toList ++ ['"']))

mutual

/-- The text of a document. -/
def write : Json → String
  | .null => "null"
  | .bool b => if b then "true" else "false"
  | .integer i => toString i
  | .float x => spelling.write x
  | .str s => writeString s
  | .arr items => "[" ++ ",".intercalate (writeItems items) ++ "]"
  | .obj members => "\x7b" ++ ",".intercalate (writeMembers members) ++ "\x7d"

/-- The texts of the items of an array. -/
def writeItems : List Json → List String
  | [] => []
  | j :: rest => write j :: writeItems rest

/-- The texts of the members of an object. -/
def writeMembers : List (String × Json) → List String
  | [] => []
  | (key, j) :: rest => (writeString key ++ ":" ++ write j) :: writeMembers rest

end

end Criteria.Json
