/-
# Criteria.Predicate.Building — the ways to make a predicate

Every predicate that a caller can make is made by the functions of this module, and they keep two
invariants: a join has two children or more — `allOf` and `anyOf` ask for the first two apart from the
rest — and no negation stands directly below a negation, because `not` takes one away instead of
putting a second one on.

The tests of order other than "less than" are put together from it: `greaterThan` is neither less nor
equal, `nearEqual` is neither above the upper nor below the lower end of an interval. Their trees are
rendered as what they are.
-/
import Criteria.Predicate.Basic

namespace Criteria.Predicate

variable {F : Foreign}

/-! ## Leaves -/

/-- Holds of the absent value, and of no other. -/
def existence : Predicate F := .leaf .existence

/-- Holds of what equals a literal. -/
def equalsLiteral (literal : Literal F) : Predicate F := .leaf (.equals literal)

/-- Holds of what equals a value. -/
def equals (value : Value F) : Predicate F := equalsLiteral (.ofValue value)

/-- Holds of the floats strictly below a bound. -/
def lessThan (bound : Float) : Predicate F := .leaf (.lessThan bound)

/-- Holds of the texts that begin with `start`. -/
def beginsWith (start : String) : Predicate F := .leaf (.beginsWith start)

/-- Holds of the texts that end with `ending`. -/
def endsWith (ending : String) : Predicate F := .leaf (.endsWith ending)

/-- Holds of the texts that contain `part`. -/
def contains (part : String) : Predicate F := .leaf (.contains part)

/-- Holds of the texts in which the pattern with the given source matches somewhere; there is no such
predicate if the source is not well-formed. -/
def matching? (source : String) : Option (Predicate F) :=
  (Pattern.compile? source).map fun p => .leaf (.pattern p)

/-! ## Connectives -/

/-- The negation; that of a negation is what the negation negates. -/
protected def not : Predicate F → Predicate F
  | .negation p => p
  | p => .negation p

instance : Complement (Predicate F) := ⟨Predicate.not⟩

/-- The join of two predicates or more. -/
def joinOf (j : Join) (first second : Predicate F) (rest : List (Predicate F)) : Predicate F :=
  .join j (first :: second :: rest)

/-- The conjunction of two predicates or more. -/
def allOf (first second : Predicate F) (rest : List (Predicate F)) : Predicate F :=
  joinOf .all first second rest

/-- The disjunction of two predicates or more. -/
def anyOf (first second : Predicate F) (rest : List (Predicate F)) : Predicate F :=
  joinOf .any first second rest

/-- The conjunction of two predicates. -/
protected def and (p q : Predicate F) : Predicate F := allOf p q []

/-- The disjunction of two predicates. -/
protected def or (p q : Predicate F) : Predicate F := anyOf p q []

/-- No join in the tree is without children. The builders make no other tree. -/
inductive Populated : Predicate F → Prop
  | leaf (t : Test F) : Populated (.leaf t)
  | negation {p : Predicate F} : Populated p → Populated (.negation p)
  | join {j : Join} {ps : List (Predicate F)} :
      ps ≠ [] → (∀ p ∈ ps, Populated p) → Populated (.join j ps)

theorem Populated.component {p q : Predicate F} (hp : p.Populated) (hq : q ∈ p.components) :
    q.Populated := by
  cases hp with
  | leaf t => cases hq
  | negation hp => rwa [List.mem_singleton.mp hq]
  | join _ hps => exact hps q hq

theorem Populated.not {p : Predicate F} (hp : p.Populated) : p.not.Populated := by
  cases hp with
  | leaf t => exact .negation (.leaf t)
  | negation hp => exact hp
  | join hne hps => exact .negation (.join hne hps)

theorem Populated.joinOf (j : Join) {p q : Predicate F} {rest : List (Predicate F)}
    (hp : p.Populated) (hq : q.Populated) (hrest : ∀ r ∈ rest, r.Populated) :
    (joinOf j p q rest).Populated :=
  .join (List.cons_ne_nil _ _) (by simpa using ⟨hp, hq, hrest⟩)

/-! ## Order -/

/-- Neither less than the bound nor equal to it. -/
def greaterThan (bound : Float) : Predicate F :=
  .not (anyOf (lessThan bound) (equals (.number bound)) [])

/-- Neither above `value + epsilon` nor below `value - epsilon`. -/
def nearEqual (value epsilon : Float) : Predicate F :=
  .not (anyOf (greaterThan (value + epsilon)) (lessThan (value - epsilon)) [])

end Criteria.Predicate
