/-
# Criteria.Pattern.Search — does an expression match somewhere in a text?

The search reads the text once, from left to right, and keeps a set of MARKS in the tree of the
expression: a character node is marked when some way of matching the text read so far has just used
that node for the last character. Reading a character moves the marks (`shift`); a match may begin at
every place, so at every place the whole expression is also entered from outside.

Two facts about the current place are kept with every inner node, so that moving the marks takes one
walk over the tree per character:

* `passes` — the node matches the empty text here, where "here" matters because of assertions;
* `final` — some mark below the node completes a match of the node here.

Nothing is ever tried twice, so the time is the length of the text times the size of the tree.
-/
import Criteria.Pattern.Expression

namespace Criteria.Pattern

open Criteria.Text

/-- An expression with marks, at one place of a text. -/
inductive Marked where
  | empty
  /-- An assertion, and whether it holds here. -/
  | look (a : Look) (holds : Bool)
  /-- A character of the set, and whether the last character was matched by it. -/
  | one (set : CharSet) (mark : Bool)
  | seq (passes final : Bool) (left right : Marked)
  | alt (passes final : Bool) (left right : Marked)
  /-- Any number of rounds. -/
  | star (final : Bool) (body : Marked)

namespace Marked

/-- Whether the expression matches the empty text here. -/
def passes : Marked → Bool
  | .empty => true
  | .look _ holds => holds
  | .one _ _ => false
  | .seq p _ _ _ => p
  | .alt p _ _ _ => p
  | .star _ _ => true

/-- Whether a match of the expression is complete here. -/
def final : Marked → Bool
  | .empty => false
  | .look _ _ => false
  | .one _ mark => mark
  | .seq _ f _ _ => f
  | .alt _ f _ _ => f
  | .star f _ => f

/-- A sequence, with its two facts worked out. -/
def mkSeq (l r : Marked) : Marked :=
  .seq (l.passes && r.passes) ((l.final && r.passes) || r.final) l r

/-- A choice, with its two facts worked out. -/
def mkAlt (l r : Marked) : Marked :=
  .alt (l.passes || r.passes) (l.final || r.final) l r

/-- A repetition, with its fact worked out. -/
def mkStar (b : Marked) : Marked :=
  .star b.final b

/-- The tree `n` times in a row. The product is halved at every level, so that its depth grows with
the logarithm of `n` only. -/
def power (m : Marked) (n : Nat) : Marked :=
  if n = 0 then .empty
  else if n = 1 then m
  else mkSeq (power m (n / 2)) (power m (n - n / 2))
termination_by n

/-- The tree between `least` and `most` times, or at least `least` times. -/
def repeated (m : Marked) (least : Nat) : Option Nat → Marked
  | none => mkSeq (power m least) (mkStar m)
  | some most => mkSeq (power m least) (power (mkAlt .empty m) (most - least))

/-- The tree of an expression at a place, without marks. -/
def ofExpression (spot : Spot) : Expression → Marked
  | .empty => .empty
  | .look a => .look a (a.holdsAt spot)
  | .one set => .one set false
  | .seq l r => mkSeq (ofExpression spot l) (ofExpression spot r)
  | .alt l r => mkAlt (ofExpression spot l) (ofExpression spot r)
  | .star b => mkStar (ofExpression spot b)
  | .times b least most => repeated (ofExpression spot b) least most

/-- The tree after reading the character `c`, which leads to the place `next`. A way of matching
comes in from outside if `enter`; inside, it comes from wherever a match of what stands before is
complete. -/
def shift (enter : Bool) (c : Char) (next : Spot) : Marked → Marked
  | .empty => .empty
  | .look a _ => .look a (a.holdsAt next)
  | .one set _ => .one set (enter && set.contains c)
  | .seq _ _ l r =>
    mkSeq (shift enter c next l) (shift (l.final || (enter && l.passes)) c next r)
  | .alt _ _ l r => mkAlt (shift enter c next l) (shift enter c next r)
  | .star _ b => mkStar (shift (enter || b.final) c next b)

/-- Whether a match ends here. -/
def matchedHere (m : Marked) : Bool := m.passes || m.final

/-- Whether a match ends here or further on, where `rest` is still to be read. -/
def search (m : Marked) : List Char → Bool
  | [] => m.matchedHere
  | c :: rest => m.matchedHere || search (m.shift true c ⟨some c, rest.head?⟩) rest

end Marked

/-- Whether the expression matches somewhere in the text. -/
def Expression.matchesIn (e : Expression) (text : List Char) : Bool :=
  (Marked.ofExpression ⟨none, text.head?⟩ e).search text

end Criteria.Pattern
