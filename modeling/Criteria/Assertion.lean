/-
# Criteria.Assertion — what a test may demand of a verdict

Three demands, each of which holds or is violated with a sentence that says why:

* `expectVerdict` — the verdict is clean and has the expected truth value;
* `expectClean` — there is no failure;
* `expectTypeMismatch` — there is a failure, and it is or holds a type mismatch.
-/
import Criteria.Description.Basic
import Criteria.Failure.Message
import Criteria.Outcome

namespace Criteria

/-- The sentence for two truth values that should have been equal. -/
def inequalityText (left right : Bool) : String :=
  "assertion `left == right` failed: unexpected verdict\n  left: " ++ Description.ofBool left
    ++ "\n right: " ++ Description.ofBool right

/-- A demand on a verdict. -/
inductive Assertion where
  /-- It is clean and has the expected truth value. -/
  | verdict (expected : Bool)
  /-- It is clean. -/
  | clean
  /-- It failed with a type mismatch, itself or below. -/
  | typeMismatch
  deriving DecidableEq, Repr

namespace Assertion

/-- Why a verdict violates the demand, if it does. -/
def violation? (v : Verdict) : Assertion → Option String
  | .verdict expected =>
    match v.failure with
    | none => if v.value = expected then none else some (inequalityText v.value expected)
    | some f =>
      some ("Expected clean verdict " ++ Description.ofBool expected ++ ", got "
        ++ Description.ofBool v.value ++ " with failure: " ++ f.message)
  | .clean => v.failure.map fun f => "Expected clean outcome, got failure: " ++ f.message
  | .typeMismatch =>
    match v.failure with
    | none => some "Expected a type mismatch, got a clean outcome"
    | some f =>
      if f.containsTypeMismatch then none
      else some ("Expected a type mismatch, got: " ++ f.message)

/-- Whether a verdict meets the demand. -/
def Holds (a : Assertion) (v : Verdict) : Prop := a.violation? v = none

instance (a : Assertion) (v : Verdict) : Decidable (a.Holds v) :=
  inferInstanceAs (Decidable (_ = _))

theorem holds_clean_iff (v : Verdict) : clean.Holds v ↔ v.failure = none := by
  rw [Holds, violation?, Option.map_eq_none_iff]

theorem holds_typeMismatch_iff (v : Verdict) :
    typeMismatch.Holds v ↔ ∃ f, v.failure = some f ∧ f.containsTypeMismatch = true := by
  rw [Holds, violation?]
  cases v.failure with
  | none => simp
  | some f => cases hf : f.containsTypeMismatch <;> simp [hf]

end Assertion

end Criteria
