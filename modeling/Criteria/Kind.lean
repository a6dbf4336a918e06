/-
# Criteria.Kind — the closed set of predicate kinds

A kind is the tag of one node of a predicate tree: which test a leaf performs, or which connective
joins its children. The constructors stand in the order that ranks kinds, so sorting by `rank` is
sorting by declaration.

`undefined` is the default and is borne by no node; it stands for a kind that is not known yet.
-/

namespace Criteria

/-- Which test or connective a node of a predicate tree performs. -/
inductive Kind where
  | undefined
  /-- Holds of the absent value. -/
  | existence
  | equals
  | lessThan
  | beginsWith
  | endsWith
  | contains
  | pattern
  | conjunction
  | disjunction
  | negation
  deriving DecidableEq, Repr, Inhabited

namespace Kind

/-- Every kind, in declaration order. -/
def all : List Kind :=
  [undefined, existence, equals, lessThan, beginsWith, endsWith, contains, pattern,
    conjunction, disjunction, negation]

theorem mem_all (k : Kind) : k ∈ all := by
  cases k <;> simp [all]

/-- The place of a kind in the declaration order. -/
def rank : Kind → Nat
  | undefined => 0
  | existence => 1
  | equals => 2
  | lessThan => 3
  | beginsWith => 4
  | endsWith => 5
  | contains => 6
  | pattern => 7
  | conjunction => 8
  | disjunction => 9
  | negation => 10

/-- The connectives are the composite kinds. -/
def isComposite : Kind → Bool
  | conjunction | disjunction | negation => true
  | _ => false

/-- The name of a kind in rendered text and in events. -/
def name : Kind → String
  | undefined => "Undefined"
  | existence => "Exists"
  | equals => "Equals"
  | lessThan => "LessThan"
  | beginsWith => "BeginsWith"
  | endsWith => "EndsWith"
  | contains => "Contains"
  | pattern => "Matches"
  | conjunction => "And"
  | disjunction => "Or"
  | negation => "Not"

/-- The kind of a given name, if there is one. -/
def ofName? (s : String) : Option Kind :=
  all.find? fun k => k.name == s

/-- Kinds sorted into declaration order; equal kinds stay side by side. -/
def sort (kinds : List Kind) : List Kind :=
  kinds.mergeSort fun a b => a.rank ≤ b.rank

theorem ofName?_name (k : Kind) : ofName? k.name = some k := by
  cases k <;> decide

theorem name_injective {a b : Kind} (h : a.name = b.name) : a = b := by
  have ha := ofName?_name a
  rw [h, ofName?_name b] at ha
  exact (Option.some.inj ha).symm

end Kind

end Criteria
