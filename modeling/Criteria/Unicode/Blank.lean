/-
# Criteria.Unicode.Blank — the characters with the property White_Space

Blanks, tabulators and line breaks of every kind, the no-break ones included.
-/
import Criteria.Text.CharSet

namespace Criteria.Unicode

open Criteria.Text

/-- The ranges of white space. -/
def blankRanges : List (Nat × Nat) :=
  [(0x0009, 0x000d), (0x0020, 0x0020), (0x0085, 0x0085), (0x00a0, 0x00a0), (0x1680, 0x1680),
   (0x2000, 0x200a), (0x2028, 0x2029), (0x202f, 0x202f), (0x205f, 0x205f), (0x3000, 0x3000)]

/-- The white space characters. -/
def blank : CharSet := .ofPairs blankRanges

end Criteria.Unicode
