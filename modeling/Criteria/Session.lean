/-
# Criteria.Session — putting predicates together on a stack

A session is a stack of predicates and a series of steps. A step takes its operands from the top of
the stack and puts its result there; some steps leave the stack alone and answer something. A step
that needs more operands than there are changes nothing, and its answer says so.
-/
import Criteria.Evaluation.Check
import Criteria.Predicate.Building
import Criteria.Rendering.Indented

namespace Criteria

/-- One step of a session. -/
inductive Step (F : Foreign) where
  | push (p : Predicate F)
  | duplicate
  | drop
  | swap
  | negate
  /-- Replaces the two topmost by their join, the lower one first. -/
  | joinTwo (j : Join)
  /-- Replaces the topmost `count` by their join, the lowest one first. -/
  | joinMany (j : Join) (count : Nat)
  /-- Puts a component of the top on top. -/
  | component (index : Nat)
  /-- Answers whether the two topmost are equal. -/
  | compare
  | check (input : Value F)
  /-- Answers the top over several lines. -/
  | display

/-- What a step answers. -/
inductive Answer where
  | done
  /-- There were too few operands. -/
  | underflow
  | noComponent
  | truth (b : Bool)
  | verdict (v : Verdict)
  | text (s : String)
  deriving DecidableEq, Repr

namespace Session

variable {F : Foreign}

/-- The join of predicates, if there are two or more. -/
def join? (j : Join) : List (Predicate F) → Option (Predicate F)
  | first :: second :: rest => some (.joinOf j first second rest)
  | _ => none

/-- The stack, topmost first, after a step, and the answer. -/
def run (stack : List (Predicate F)) : Step F → List (Predicate F) × Answer
  | .push p => (p :: stack, .done)
  | .duplicate =>
    match stack with
    | p :: rest => (p :: p :: rest, .done)
    | _ => (stack, .underflow)
  | .drop =>
    match stack with
    | _ :: rest => (rest, .done)
    | _ => (stack, .underflow)
  | .swap =>
    match stack with
    | p :: q :: rest => (q :: p :: rest, .done)
    | _ => (stack, .underflow)
  | .negate =>
    match stack with
    | p :: rest => (p.not :: rest, .done)
    | _ => (stack, .underflow)
  | .joinTwo j =>
    match stack with
    | q :: p :: rest => (.joinOf j p q [] :: rest, .done)
    | _ => (stack, .underflow)
  | .joinMany j count =>
    if stack.length < count then (stack, .underflow)
    else
      match join? j (stack.take count).reverse with
      | some p => (p :: stack.drop count, .done)
      | none => (stack, .underflow)
  | .component index =>
    match stack with
    | p :: _ =>
      match p.components[index]? with
      | some q => (q :: stack, .done)
      | none => (stack, .noComponent)
    | _ => (stack, .underflow)
  | .compare =>
    match stack with
    | p :: q :: _ => (stack, .truth (q == p))
    | _ => (stack, .underflow)
  | .check input =>
    match stack with
    | p :: _ => (stack, .verdict (p.check input))
    | _ => (stack, .underflow)
  | .display =>
    match stack with
    | p :: _ => (stack, .text (p.indented .standard).value)
    | _ => (stack, .underflow)

/-- The stacks and answers after each of several steps. -/
def runAll (stack : List (Predicate F)) :
    List (Step F) → List (List (Predicate F) × Answer)
  | [] => []
  | step :: rest =>
    let next := run stack step
    next :: runAll next.1 rest

end Session

end Criteria
