/-
# Criteria.Rendering.Format — the formats by name

A format is one of the two ways to write a predicate down. Writing reports one event when the text has
holes and none when it has not, however many there are; `Predicate.text` is the compact form without
an event. No format can be read back.
-/
import Criteria.Evaluation.Event
import Criteria.Failure.Message
import Criteria.Rendering.Indented

namespace Criteria

variable {F : Foreign}

/-- A textual format for predicates. -/
inductive Format where
  | compact
  | indented (layout : Layout)
  deriving DecidableEq, Repr

/-- Why a text could not be read as a predicate. -/
inductive DecodeError where
  /-- The format cannot be read. -/
  | notImplemented
  deriving DecidableEq, Repr

/-- The sentence for an error of reading. -/
def DecodeError.message : DecodeError → String
  | .notImplemented => "deserialization is not implemented"

namespace Format

/-- The name of a format. -/
def name : Format → String
  | .compact => "compact"
  | .indented _ => "indented"

/-- A predicate in a format. -/
def render : Format → Predicate F → Outcome String
  | .compact, p => p.compact
  | .indented layout, p => p.indented layout

/-- A predicate in a format, reporting when the text has holes. -/
def encode (format : Format) (p : Predicate F) : Traced (Outcome String) :=
  let outcome := format.render p
  match outcome.failure with
  | none => .pure outcome
  | some f => .report (.incomplete format.name f.message) outcome

/-- The predicate that a text in a format stands for. -/
def decode (_ : Format) (_ : String) : Except DecodeError (Predicate F) :=
  .error .notImplemented

end Format

end Criteria
