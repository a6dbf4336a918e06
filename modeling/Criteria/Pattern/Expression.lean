/-
# Criteria.Pattern.Expression — regular expressions with assertions

The tree of a regular expression: a character of a set, an assertion about the place between two
characters, sequence, choice and repetition. Whether a repetition prefers more or fewer rounds plays
no part here, because the library only asks whether an expression matches somewhere.

An assertion looks at a `Spot`, the characters right before and right after a place in a text.
-/
import Criteria.Text.CharSet
import Criteria.Unicode.Word

namespace Criteria.Pattern

open Criteria.Text

/-! ## Assertions -/

/-- A place between two characters of a text; at an end of the text there is no character. -/
structure Spot where
  /-- The character right before the place. -/
  before : Option Char
  /-- The character right after the place. -/
  after : Option Char

/-- What an assertion demands of a place. -/
inductive Look where
  | textStart
  | textEnd
  /-- The start of the text or of a line. -/
  | lineStart
  /-- The end of the text or of a line. -/
  | lineEnd
  /-- A word character on exactly one side. -/
  | wordEdge
  /-- A word character on both sides or on neither. -/
  | noWordEdge
  /-- A word character after the place and none before it. -/
  | wordStart
  /-- A word character before the place and none after it. -/
  | wordEnd
  /-- No word character before the place. -/
  | halfStart
  /-- No word character after the place. -/
  | halfEnd
  deriving DecidableEq, Repr

/-- Whether there is a character and it belongs to words. -/
def isWord : Option Char → Bool
  | some c => Unicode.word.contains c
  | none => false

/-- Whether an assertion holds at a place. -/
def Look.holdsAt (spot : Spot) : Look → Bool
  | .textStart => spot.before.isNone
  | .textEnd => spot.after.isNone
  | .lineStart => spot.before.isNone || spot.before == some '\n'
  | .lineEnd => spot.after.isNone || spot.after == some '\n'
  | .wordEdge => isWord spot.before != isWord spot.after
  | .noWordEdge => isWord spot.before == isWord spot.after
  | .wordStart => !isWord spot.before && isWord spot.after
  | .wordEnd => isWord spot.before && !isWord spot.after
  | .halfStart => !isWord spot.before
  | .halfEnd => !isWord spot.after

/-! ## Expressions -/

/-- A regular expression. -/
inductive Expression where
  | empty
  /-- Matches the empty text where the assertion holds. -/
  | look (a : Look)
  /-- Matches one character of the set. -/
  | one (set : CharSet)
  /-- Matches the first expression and then the second. -/
  | seq (left right : Expression)
  | alt (left right : Expression)
  /-- Matches the body any number of times. -/
  | star (body : Expression)
  /-- Matches the body at least `least` times and, if there is a bound, at most `most` times. -/
  | times (body : Expression) (least : Nat) (most : Option Nat)
  deriving Repr

namespace Expression

/-- The expressions one after the other. -/
def sequence : List Expression → Expression
  | [] => .empty
  | [e] => e
  | e :: rest => .seq e (sequence rest)

/-- One of the expressions. -/
def choice : List Expression → Expression
  | [] => .one CharSet.empty
  | [e] => e
  | e :: rest => .alt e (choice rest)

/-- How much a set adds to the size of an expression: one for a range, two for every further one. -/
def setSize (set : CharSet) : Nat := max 1 (2 * set.ranges.length - 1)

/-- The size of the expression once its counted repetitions are written out: a node counts one, and
a set as much as its ranges do. -/
def size : Expression → Nat
  | .empty => 1
  | .look _ => 1
  | .one set => setSize set
  | .seq l r => l.size + r.size
  | .alt l r => 1 + l.size + r.size
  | .star b => 1 + b.size
  | .times b least most => 1 + max least (most.getD (least + 1)) * b.size

end Expression

end Criteria.Pattern
