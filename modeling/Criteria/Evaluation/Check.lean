/-
# Criteria.Evaluation.Check — the verdict of a predicate on an input

Evaluation visits the tree from left to right and stops a join at the first child whose verdict
decides it. What it gives is a verdict, with a failure if a visited leaf did not accept the type of
the input:

* a leaf that does not accept the input answers false and fails;
* a negation inverts a clean verdict; a failed child makes it false, WHATEVER the child's verdict was,
  and its failure is passed on as it is;
* a join has the decisive verdict if a visited child has it and the opposite otherwise. It fails with
  the failures of the children it visited, the deciding one included, and is clean if there are none.

Each mismatch and each finished join is reported as an event. `evaluate` gives verdict and events
together; `check` and `checkEvents` are its two halves.
-/
import Criteria.Evaluation.Event
import Criteria.Failure.Aggregate
import Criteria.Outcome
import Criteria.Predicate.Basic

namespace Criteria

variable {F : Foreign}

/-! ## Leaves and negation -/

/-- The verdict of a test on an input. -/
def Test.evaluate (input : Value F) (t : Test F) : Traced Verdict :=
  match t.result? input with
  | some b => .pure (.clean b)
  | none => .report (.mismatch t.kind input.typeName) (.failed false .typeMismatch)

/-- The verdict of a negation, from that of its child. -/
def Verdict.negate (v : Verdict) : Verdict :=
  match v.failure with
  | none => .clean (!v.value)
  | some f => .failed false f

theorem Verdict.negate_failure (v : Verdict) : v.negate.failure = v.failure := by
  obtain ⟨value, failure⟩ := v
  cases failure <;> rfl

theorem Verdict.negate_value (v : Verdict) : v.negate.value = (v.isClean && !v.value) := by
  obtain ⟨value, failure⟩ := v
  cases failure <;> rfl

/-! ## Joins -/

/-- What a join gathers from the children it visits. -/
structure Scan where
  /-- The failures of the visited children. -/
  failures : Aggregate
  /-- Whether a visited child decided the join. -/
  decided : Bool
  deriving DecidableEq

namespace Scan

/-- No child was visited. -/
def start : Scan := ⟨.empty, false⟩

/-- One more child was visited, before those of the scan. -/
def visit (v : Verdict) (s : Scan) : Scan :=
  ⟨.ofList (v.failure.toList ++ s.failures.failures), s.decided⟩

/-- The child that decides the join. -/
def decide (v : Verdict) : Scan := ⟨.ofList v.failure.toList, true⟩

/-- The verdict of the join. -/
def verdict (j : Join) (s : Scan) : Verdict :=
  ⟨if s.decided then j.decisive else !j.decisive, s.failures.collapse⟩

end Scan

namespace Predicate

mutual

/-- The verdict of a predicate on an input, and the events on the way. -/
def evaluate (input : Value F) : Predicate F → Traced Verdict
  | .leaf t => t.evaluate input
  | .negation p => (evaluate input p).map Verdict.negate
  | .join j ps =>
    (scan input j ps).bind fun s =>
      .report (.scanned j.kind ps.length s.decided s.failures.size) (s.verdict j)

/-- Visits children from left to right, up to the first one that decides the join. -/
def scan (input : Value F) (j : Join) : List (Predicate F) → Traced Scan
  | [] => .pure .start
  | p :: ps =>
    (evaluate input p).bind fun v =>
      if v.value = j.decisive then .pure (.decide v)
      else (scan input j ps).map (Scan.visit v)

end

/-- The verdict of a predicate on an input. -/
def check (p : Predicate F) (input : Value F) : Verdict := (p.evaluate input).value

/-- The events that a check reports. -/
def checkEvents (p : Predicate F) (input : Value F) : List Event := (p.evaluate input).events

end Predicate

end Criteria
