/-
# Criteria.Description.Basic — how descriptions are put together

A description shows the structure of a value of the library, constructor by constructor. It is meant
for people who look for a fault, so nothing is left out and nothing is hidden: a character that does
not show by itself is escaped, and a float has as many digits as it takes to tell it from every other.
-/
import Criteria.Decimal.Spelling
import Criteria.Text.Quoted
import Criteria.Unicode.Hidden

namespace Criteria.Description

open Criteria.Text

/-- Whether a character has to be escaped in a description. -/
def isEscaped (c : Char) : Bool :=
  c == '"' || c == '\\' || Unicode.hidden.contains c

/-- A text, quoted, with every character visible. -/
def ofText (s : String) : String := quoteWith isEscaped s

/-- Floats in descriptions: from `10 ^ -4` to below `10 ^ 16` the point stands in its place. -/
def spelling : Decimal.Spelling where
  tie := .away
  isPositional e := -4 ≤ e && e < 16
  exponentMark := "e"
  nan := "NaN"
  infinity negative := if negative then "-inf" else "inf"

/-- A float. -/
def ofFloat (x : Float) : String := spelling.write x

/-- A truth value. -/
def ofBool (b : Bool) : String := if b then "true" else "false"

/-- A constructor applied to one argument. -/
def call (constructor argument : String) : String := constructor ++ "(" ++ argument ++ ")"

/-- A record: its name, and the fields by name. -/
def record (name : String) (fields : List (String × String)) : String :=
  name ++ " \x7b " ++ ", ".intercalate (fields.map fun f => f.1 ++ ": " ++ f.2) ++ " \x7d"

/-- A list. -/
def list (items : List String) : String := "[" ++ ", ".intercalate items ++ "]"

/-- A map. -/
def map (entries : List (String × String)) : String :=
  "\x7b" ++ ", ".intercalate (entries.map fun e => e.1 ++ ": " ++ e.2) ++ "\x7d"

end Criteria.Description
