/-
# Criteria.Evaluation.Event — what an activity reports while it runs

Evaluation and rendering report what happens on the way as a list of events, in order. `Traced` is a
value with the events that were reported while it was made; binding runs one activity after another
and puts their events in that order.
-/
import Criteria.Kind

namespace Criteria

/-- How much a reader of events has to care. -/
inductive Level where
  | trace
  | debug
  deriving DecidableEq, Repr

/-- Something that happened on the way. -/
inductive Event where
  /-- A leaf of this kind was given an input of the named type, which it does not accept. -/
  | mismatch (kind : Kind) (found : String)
  /-- A join of this kind has its verdict: it has so many children, some child decided it or none
  did, and so many of the visited children failed. -/
  | scanned (kind : Kind) (children : Nat) (decided : Bool) (failures : Nat)
  /-- A rendering in the named format has holes, for the reason given. -/
  | incomplete (format : String) (failure : String)
  deriving DecidableEq, Repr

namespace Event

/-- The level of an event. -/
def level : Event → Level
  | .scanned _ _ _ _ => .trace
  | .mismatch _ _ => .debug
  | .incomplete _ _ => .debug

/-- The sentence that goes with an event. -/
def message : Event → String
  | .mismatch _ _ => "type mismatch"
  | .scanned _ _ _ _ => "short-circuit scan finished"
  | .incomplete _ _ => "serialization incomplete"

end Event

/-- A value and the events that were reported while it was made. -/
structure Traced (α : Type) where
  value : α
  /-- The events, in the order in which they were reported. -/
  events : List Event

namespace Traced

variable {α β : Type}

/-- A value made without an event. -/
protected def pure (value : α) : Traced α := ⟨value, []⟩

/-- One event, and then the value. -/
def report (event : Event) (value : α) : Traced α := ⟨value, [event]⟩

/-- The value transformed, after the same events. -/
protected def map (f : α → β) (t : Traced α) : Traced β := ⟨f t.value, t.events⟩

/-- One activity after another. -/
protected def bind (t : Traced α) (f : α → Traced β) : Traced β :=
  ⟨(f t.value).value, t.events ++ (f t.value).events⟩

@[simp] theorem value_pure (a : α) : (Traced.pure a).value = a := rfl

@[simp] theorem events_pure (a : α) : (Traced.pure a).events = [] := rfl

@[simp] theorem value_bind (t : Traced α) (f : α → Traced β) :
    (t.bind f).value = (f t.value).value := rfl

@[simp] theorem events_bind (t : Traced α) (f : α → Traced β) :
    (t.bind f).events = t.events ++ (f t.value).events := rfl

end Traced

end Criteria
