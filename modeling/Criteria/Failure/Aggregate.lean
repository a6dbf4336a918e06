/-
# Criteria.Failure.Aggregate — gathering failures in the order they are met

An `Aggregate` is the bundle that a connective or a renderer fills while it visits its children. It
may be empty; `collapse` is the one place where an empty bundle becomes "no failure", so a failure
made by collapsing is never an empty aggregate.
-/
import Criteria.Failure.Message

namespace Criteria

/-- An ordered bundle of failures, possibly empty. -/
structure Aggregate where
  /-- The failures, in the order in which they were added. -/
  failures : List Failure
  deriving DecidableEq, Repr

namespace Aggregate

/-- The bundle without failures. -/
def empty : Aggregate := ⟨[]⟩

instance : Inhabited Aggregate := ⟨empty⟩

/-- The bundle of the given failures. -/
def ofList (failures : List Failure) : Aggregate := ⟨failures⟩

/-- One more failure, at the end. -/
def append (a : Aggregate) (f : Failure) : Aggregate := ⟨a.failures ++ [f]⟩

/-- One more failure at the end, if there is one. -/
def append? (a : Aggregate) : Option Failure → Aggregate
  | some f => a.append f
  | none => a

/-- Several more failures, at the end. -/
def extend (a : Aggregate) (fs : List Failure) : Aggregate := ⟨a.failures ++ fs⟩

/-- How many failures there are. -/
def size (a : Aggregate) : Nat := a.failures.length

/-- Whether there is no failure. -/
def isEmpty (a : Aggregate) : Bool := a.failures.isEmpty

/-- The bundle as a failure, whether it is empty or not. -/
def toFailure (a : Aggregate) : Failure := .aggregate a.failures

/-- No failure for an empty bundle, otherwise the bundle as a failure. -/
def collapse (a : Aggregate) : Option Failure :=
  if a.isEmpty then none else some a.toFailure

/-- A bundle whose only failure is this one, even when this one is empty. -/
def nest (a : Aggregate) : Aggregate := ⟨[a.toFailure]⟩

/-- The failures with each aggregate among them replaced by its own failures, one level deep. -/
def flatten (a : Aggregate) : Aggregate :=
  ⟨a.failures.flatMap fun f => (f.aggregated?).getD [f]⟩

/-- The text of a bundle is its text as a failure. -/
def message (a : Aggregate) : String := a.toFailure.message

/-- The first failure of the bundle and the causes below it. -/
def causes (a : Aggregate) : List Failure := a.toFailure.causes

@[simp] theorem collapse_empty : empty.collapse = none := rfl

@[simp] theorem collapse_append (a : Aggregate) (f : Failure) :
    (a.append f).collapse = some (.aggregate (a.failures ++ [f])) := by
  simp [collapse, append, isEmpty, toFailure]

theorem append?_eq_ofList (a : Aggregate) (f : Option Failure) :
    a.append? f = ofList (a.failures ++ f.toList) := by
  cases f with
  | none => exact congrArg Aggregate.mk (List.append_nil _).symm
  | some f => rfl

theorem collapse_eq_none_iff (a : Aggregate) : a.collapse = none ↔ a.failures = [] := by
  simp [collapse, isEmpty]

end Aggregate

end Criteria
