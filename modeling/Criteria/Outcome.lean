/-
# Criteria.Outcome — a value that may come with a failure

An outcome always carries its value. When something went wrong on the way, the failure rides along
with the best value that could still be given, and the caller decides whether to trust it. An outcome
without a failure is CLEAN.
-/
import Criteria.Failure.Basic

namespace Criteria

/-- A value with the failure, if any, that was met while producing it. -/
structure Outcome (α : Type) where
  /-- The best value that could be given. -/
  value : α
  /-- The failure met on the way, if any. -/
  failure : Option Failure
  deriving DecidableEq, Repr

namespace Outcome

variable {α β : Type}

/-- A value without a failure. -/
def clean (value : α) : Outcome α := ⟨value, none⟩

/-- A value that comes with a failure. -/
def failed (value : α) (failure : Failure) : Outcome α := ⟨value, some failure⟩

/-- Whether no failure came with the value. -/
def isClean (o : Outcome α) : Bool := o.failure.isNone

/-- The outcome with its value transformed and its failure kept. -/
def map (f : α → β) (o : Outcome α) : Outcome β := ⟨f o.value, o.failure⟩

/-- The value of a clean outcome, otherwise the failure; the value of a failed one is dropped. -/
def toExcept (o : Outcome α) : Except Failure α :=
  match o.failure with
  | none => .ok o.value
  | some f => .error f

@[simp] theorem isClean_iff (o : Outcome α) : o.isClean = true ↔ o.failure = none := by
  simp [isClean]

/-- A clean outcome is its value. -/
theorem eq_clean {o : Outcome α} (h : o.isClean = true) : o = clean o.value := by
  obtain ⟨value, failure⟩ := o
  obtain rfl : failure = none := (isClean_iff _).mp h
  rfl

@[simp] theorem map_failure (f : α → β) (o : Outcome α) : (o.map f).failure = o.failure := rfl

@[simp] theorem map_value (f : α → β) (o : Outcome α) : (o.map f).value = f o.value := rfl

end Outcome

/-- What a predicate says about an input. -/
abbrev Verdict := Outcome Bool

end Criteria
