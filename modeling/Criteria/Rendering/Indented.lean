/-
# Criteria.Rendering.Indented — predicates over several lines

A leaf takes one line and is written as in the compact form. A connective opens on a line of its own,
puts each child one level deeper, with a comma after all but the last, and closes on a line of its
own. Every level is one unit of indentation, lines are ended by a line feed, and the whole is followed
by a terminator. Unit and terminator are free (`Layout`); by default they are a tabulator, and a
carriage return with a line feed.
-/
import Criteria.Rendering.Compact

namespace Criteria

open Criteria.Text

variable {F : Foreign}

/-- What is free in the indented form. -/
structure Layout where
  /-- The indentation of one level. -/
  indent : String
  /-- What follows the whole. -/
  terminator : String
  deriving DecidableEq, Repr

namespace Layout

/-- A tabulator per level, and a carriage return and a line feed at the end. -/
def standard : Layout := ⟨"\t", "\r\n"⟩

instance : Inhabited Layout := ⟨standard⟩

/-- The layout with another indentation. -/
def withIndent (l : Layout) (indent : String) : Layout := { l with indent := indent }

/-- The layout with another terminator. -/
def withTerminator (l : Layout) (terminator : String) : Layout := { l with terminator := terminator }

/-- The indentation of a line at the given depth. -/
def pad (l : Layout) : Nat → String
  | 0 => ""
  | depth + 1 => l.indent ++ pad l depth

/-- The lines of a connective at the given depth, from those of its children. -/
def block (l : Layout) (depth : Nat) (kind : Kind) (children : List String) : String :=
  l.pad depth ++ kind.name ++ "(\n" ++ ",\n".intercalate children ++ "\n" ++ l.pad depth ++ ")"

end Layout

namespace Predicate

mutual

/-- The lines of a predicate at the given depth. -/
def lines (l : Layout) (depth : Nat) : Predicate F → Outcome String
  | .leaf t => t.render.map (l.pad depth ++ ·)
  | .negation p => enclose (l.block depth .negation) [lines l (depth + 1) p]
  | .join j ps => enclose (l.block depth j.kind) (linesAll l (depth + 1) ps)

/-- The lines of several predicates at the given depth. -/
def linesAll (l : Layout) (depth : Nat) : List (Predicate F) → List (Outcome String)
  | [] => []
  | p :: ps => lines l depth p :: linesAll l depth ps

end

theorem linesAll_eq_map (l : Layout) (depth : Nat) :
    ∀ ps : List (Predicate F), linesAll l depth ps = ps.map (lines l depth)
  | [] => rfl
  | p :: ps => by rw [linesAll, linesAll_eq_map l depth ps, List.map_cons]

theorem lines_leaf_value (l : Layout) (depth : Nat) (t : Test F) :
    ((leaf t).lines l depth).value = l.pad depth ++ (leaf t).text := rfl

theorem lines_negation_value (l : Layout) (depth : Nat) (p : Predicate F) :
    ((negation p).lines l depth).value =
      l.block depth .negation [(p.lines l (depth + 1)).value] := rfl

theorem lines_join_value (l : Layout) (depth : Nat) (j : Join) (ps : List (Predicate F)) :
    ((join j ps).lines l depth).value =
      l.block depth j.kind (ps.map fun p => (p.lines l (depth + 1)).value) := by
  rw [lines, enclose_value, linesAll_eq_map, List.map_map]
  rfl

theorem lines_leaf_failure (l : Layout) (depth : Nat) (t : Test F) :
    ((leaf t).lines l depth).failure = (leaf t).compact.failure := rfl

theorem lines_negation_failure (l : Layout) (depth : Nat) (p : Predicate F) :
    ((negation p).lines l depth).failure =
      (Aggregate.ofList (p.lines l (depth + 1)).failure.toList).collapse := by
  rw [lines, enclose_failure, List.flatMap_singleton]

theorem lines_join_failure (l : Layout) (depth : Nat) (j : Join) (ps : List (Predicate F)) :
    ((join j ps).lines l depth).failure =
      (Aggregate.ofList
        (ps.flatMap fun p => (p.lines l (depth + 1)).failure.toList)).collapse := by
  rw [lines, enclose_failure, linesAll_eq_map, List.flatMap_map]

/-- A predicate over several lines. -/
def indented (p : Predicate F) (l : Layout) : Outcome String :=
  (p.lines l 0).map (· ++ l.terminator)

end Predicate

end Criteria
