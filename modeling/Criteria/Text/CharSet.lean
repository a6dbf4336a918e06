/-
# Criteria.Text.CharSet — sets of characters as lists of ranges

A set of characters is a list of closed ranges of code points. In CANONICAL form the ranges ascend
and a gap lies between any two of them; `ofRanges` brings any list of ranges into it. Membership
(`contains`) needs only that the ranges ascend, and stops at the first range that starts above the
character, so looking up a character of a common script touches few ranges.

The operations are those of a bracketed character class: union, complement, intersection, difference
and symmetric difference. All but union are put together from union and complement.
-/

namespace Criteria.Text

/-- A closed range of code points. -/
structure CharRange where
  /-- The first code point. -/
  first : Nat
  /-- The last code point. -/
  last : Nat
  deriving DecidableEq, Repr

/-- A set of characters, as ascending ranges of code points. -/
structure CharSet where
  /-- The ranges, in ascending order. -/
  ranges : List CharRange
  deriving DecidableEq, Repr

namespace CharSet

/-- The greatest code point. -/
def maxCode : Nat := 0x10FFFF

/-- The set without characters. -/
def empty : CharSet := ⟨[]⟩

/-- The set of all characters. -/
def full : CharSet := ⟨[⟨0, maxCode⟩]⟩

/-- Whether one of the ascending ranges holds the code point. -/
def holds (code : Nat) : List CharRange → Bool
  | [] => false
  | r :: rest => if code < r.first then false else code ≤ r.last || holds code rest

/-- Whether the set has the character. -/
def contains (s : CharSet) (c : Char) : Bool := holds c.toNat s.ranges

/-- Joins ascending ranges that touch or overlap; `current` is the range that may still grow. -/
def joinTouching (current : CharRange) : List CharRange → List CharRange
  | [] => [current]
  | r :: rest =>
    if r.first ≤ current.last + 1 then
      joinTouching ⟨current.first, max current.last r.last⟩ rest
    else
      current :: joinTouching r rest

/-- The set of the characters of any ranges, in canonical form. -/
def ofRanges (ranges : List CharRange) : CharSet :=
  match ranges.mergeSort (fun a b => a.first ≤ b.first) with
  | [] => empty
  | r :: rest => ⟨joinTouching r rest⟩

/-- The set of the characters between two code points. -/
def between (first last : Nat) : CharSet := ⟨[⟨first, last⟩]⟩

/-- The set of one character. -/
def single (c : Char) : CharSet := between c.toNat c.toNat

/-- The set whose ranges are given as pairs of code points. -/
def ofPairs (pairs : List (Nat × Nat)) : CharSet :=
  ofRanges (pairs.map fun p => ⟨p.1, p.2⟩)

/-- The characters of either set. -/
def union (s t : CharSet) : CharSet := ofRanges (s.ranges ++ t.ranges)

/-- The gaps between ascending ranges, from the code point `start` on. -/
def gaps (start : Nat) : List CharRange → List CharRange
  | [] => if start ≤ maxCode then [⟨start, maxCode⟩] else []
  | r :: rest =>
    if start < r.first then ⟨start, r.first - 1⟩ :: gaps (r.last + 1) rest
    else gaps (r.last + 1) rest

/-- The characters that the set does not have. -/
def complement (s : CharSet) : CharSet := ⟨gaps 0 s.ranges⟩

/-- The characters of both sets. -/
def inter (s t : CharSet) : CharSet := (s.complement.union t.complement).complement

/-- The characters of the first set that the second does not have. -/
def difference (s t : CharSet) : CharSet := s.inter t.complement

/-- The characters of exactly one of the sets. -/
def symmetricDifference (s t : CharSet) : CharSet := (s.difference t).union (t.difference s)

/-- Whether the set has one of the code points. -/
def meets (s : CharSet) (codes : List Nat) : Bool := codes.any fun n => holds n s.ranges

end CharSet

end Criteria.Text
