/-
# Criteria.Predicate.Basic — predicate trees

A predicate is a tree. Its leaves are elementary tests (`Test`); inside there are negation and, in one
constructor, the two joins over any number of children: `all` is conjunction and `any` disjunction.
One constructor for both, because they differ in a single bit, the verdict of a child that decides the
whole (`Join.decisive`): false decides a conjunction, true a disjunction.

A test either accepts the type of an input, and then answers, or it does not (`Test.result?`). Beware
of the polarity of the existence test: it holds of the ABSENT value.

The constructors admit trees that no builder makes — joins of fewer than two children, negations of
negations; `Criteria.Predicate.Building` has the builders.
-/
import Criteria.Kind
import Criteria.Pattern.Basic
import Criteria.Predicate.Literal

namespace Criteria

/-! ## Joins -/

/-- How several verdicts are joined. -/
inductive Join where
  | all
  | any
  deriving DecidableEq, Repr

namespace Join

/-- The verdict of a child that decides the join. -/
def decisive : Join → Bool
  | .all => false
  | .any => true

/-- The other join. -/
def dual : Join → Join
  | .all => .any
  | .any => .all

/-- The kind of a node that joins. -/
def kind : Join → Kind
  | .all => .conjunction
  | .any => .disjunction

theorem decisive_dual (j : Join) : j.dual.decisive = !j.decisive := by cases j <;> rfl

/-- Verdicts that are decisive together are equal. -/
theorem eq_of_eq_decisive_iff (j : Join) {a b : Bool} (h : a = j.decisive ↔ b = j.decisive) :
    a = b := by
  by_cases ha : a = j.decisive
  · rw [ha, h.mp ha]
  · rw [Bool.eq_not_of_ne ha, Bool.eq_not_of_ne fun hb => ha (h.mpr hb)]

theorem kind_injective {i j : Join} (h : i.kind = j.kind) : i = j := by
  cases i with
  | all =>
      cases j with
      | all => rfl
      | any => cases h
  | any =>
      cases j with
      | all => cases h
      | any => rfl

theorem isComposite_kind (j : Join) : j.kind.isComposite = true := by cases j <;> rfl

theorem kind_ne_negation (j : Join) : j.kind ≠ .negation := by cases j <;> nofun

end Join

/-! ## Tests -/

/-- The elementary tests, the leaves of a predicate. -/
inductive Test (F : Foreign) where
  /-- Whether the input is the absent value. -/
  | existence
  | equals (literal : Literal F)
  | lessThan (bound : Float)
  | beginsWith (start : String)
  | endsWith (ending : String)
  | contains (part : String)
  | pattern (pattern : Pattern F.engine)

namespace Test

variable {F : Foreign}

/-- The kind of a test. -/
def kind : Test F → Kind
  | .existence => .existence
  | .equals _ => .equals
  | .lessThan _ => .lessThan
  | .beginsWith _ => .beginsWith
  | .endsWith _ => .endsWith
  | .contains _ => .contains
  | .pattern _ => .pattern

theorem isComposite_kind (t : Test F) : t.kind.isComposite = false := by cases t <;> rfl

theorem kind_ne_of_isComposite (t : Test F) {k : Kind} (hk : k.isComposite = true) : t.kind ≠ k := by
  intro h
  rw [← h, isComposite_kind] at hk
  cases hk

/-- The answer of the test for an input; nothing if the test does not accept the input's type. The
existence test accepts every type. -/
def result? (input : Value F) : Test F → Option Bool
  | .existence => some input.isAbsent
  | .equals literal => literal.test? input
  | .lessThan bound => input.number?.map (· < bound)
  | .beginsWith start => input.text?.map (·.startsWith start)
  | .endsWith ending => input.text?.map (·.endsWith ending)
  | .contains part => input.text?.map (·.contains part)
  | .pattern p => input.text?.map p.matchesIn

/-- Whether the test accepts the type of the input: any type or, where the test has an argument to
compare with, the type of that. -/
def accepts (input : Value F) : Test F → Bool
  | .existence => true
  | .equals literal => literal.toValue.sameType input
  | .lessThan bound => (Value.number bound).sameType input
  | .beginsWith s | .endsWith s | .contains s => (Value.str s).sameType input
  | .pattern p => (Value.str p.source).sameType input

/-- A test answers exactly if it accepts the type of the input. -/
theorem isSome_result? (t : Test F) (input : Value F) :
    (t.result? input).isSome = t.accepts input := by
  cases t with
  | existence => rfl
  | equals literal => exact literal.isSome_test? input
  | lessThan bound => rw [result?, Option.isSome_map, input.isSome_number? bound, accepts]
  | beginsWith s => rw [result?, Option.isSome_map, input.isSome_text? s, accepts]
  | endsWith s => rw [result?, Option.isSome_map, input.isSome_text? s, accepts]
  | contains s => rw [result?, Option.isSome_map, input.isSome_text? s, accepts]
  | pattern p => rw [result?, Option.isSome_map, input.isSome_text? p.source, accepts]

/-- Equality of tests: the same test of equal arguments. Patterns are compared by their source. -/
def beq : Test F → Test F → Bool
  | .existence, .existence => true
  | .equals a, .equals b => a == b
  | .lessThan a, .lessThan b => a == b
  | .beginsWith a, .beginsWith b => a == b
  | .endsWith a, .endsWith b => a == b
  | .contains a, .contains b => a == b
  | .pattern a, .pattern b => a == b
  | _, _ => false

instance : BEq (Test F) := ⟨beq⟩

end Test

/-! ## Predicates -/

/-- A test of a value, put together from elementary tests. -/
inductive Predicate (F : Foreign) where
  | leaf (test : Test F)
  | negation (child : Predicate F)
  /-- The conjunction or disjunction of predicates. -/
  | join (mode : Join) (children : List (Predicate F))

namespace Predicate

variable {F : Foreign}

/-- Induction over predicate trees: what holds of every leaf, passes from a predicate to its negation
and from all children to their join holds of every predicate. -/
@[elab_as_elim, induction_eliminator]
theorem treeInduction {motive : Predicate F → Prop}
    (leaf : ∀ t, motive (.leaf t))
    (negation : ∀ p, motive p → motive (.negation p))
    (join : ∀ j ps, (∀ p ∈ ps, motive p) → motive (.join j ps)) (p : Predicate F) : motive p :=
  @Predicate.rec F motive (fun ps => ∀ p ∈ ps, motive p) leaf negation join
    (by simp) (fun p ps hp hps => by simpa using ⟨hp, hps⟩) p

/-- The kind of the root. -/
def kind : Predicate F → Kind
  | .leaf t => t.kind
  | .negation _ => .negation
  | .join j _ => j.kind

/-- The children of a connective, in order; a leaf has none. -/
def components : Predicate F → List (Predicate F)
  | .leaf _ => []
  | .negation p => [p]
  | .join _ ps => ps

theorem exists_leaf_of_kind_eq {t : Test F} {p : Predicate F} (h : t.kind = p.kind) :
    ∃ s, p = .leaf s ∧ t.kind = s.kind := by
  cases p with
  | leaf s => exact ⟨s, rfl, h⟩
  | negation p => exact absurd h (t.kind_ne_of_isComposite rfl)
  | join j ps => exact absurd h (t.kind_ne_of_isComposite j.isComposite_kind)

theorem exists_negation_of_kind_eq {p : Predicate F} (h : .negation = p.kind) :
    ∃ c, p = .negation c := by
  cases p with
  | leaf t => exact absurd h.symm (t.kind_ne_of_isComposite rfl)
  | negation c => exact ⟨c, rfl⟩
  | join j ps => exact absurd h.symm j.kind_ne_negation

theorem exists_join_of_kind_eq {j : Join} {p : Predicate F} (h : j.kind = p.kind) :
    ∃ ps, p = .join j ps := by
  cases p with
  | leaf t => exact absurd h.symm (t.kind_ne_of_isComposite j.isComposite_kind)
  | negation p => exact absurd h j.kind_ne_negation
  | join i ps =>
      obtain rfl : j = i := Join.kind_injective h
      exact ⟨ps, rfl⟩

mutual

/-- The nodes of a predicate, each before those below it. -/
def nodes : Predicate F → List (Predicate F)
  | .leaf t => [.leaf t]
  | .negation p => .negation p :: nodes p
  | .join j ps => .join j ps :: nodesAll ps

/-- The nodes of several predicates, one after the other. -/
def nodesAll : List (Predicate F) → List (Predicate F)
  | [] => []
  | p :: ps => nodes p ++ nodesAll ps

end

theorem nodesAll_eq_flatMap (ps : List (Predicate F)) : nodesAll ps = ps.flatMap nodes := by
  induction ps with
  | nil => rfl
  | cons p ps ih => rw [nodesAll, ih, List.flatMap_cons]

/-- The nodes of a predicate are the root and the nodes of its components. -/
theorem nodes_eq_cons (p : Predicate F) : p.nodes = p :: p.components.flatMap nodes := by
  cases p with
  | leaf t => rfl
  | negation p => rw [nodes, components, List.flatMap_singleton]
  | join j ps => rw [nodes, components, nodesAll_eq_flatMap]

theorem mem_nodes_self (p : Predicate F) : p ∈ p.nodes := by
  rw [nodes_eq_cons]
  exact List.mem_cons_self

/-- The text that a leaf tests for: of an equality with a text, of a beginning, an ending or a part,
or the source of a pattern. -/
def text? : Predicate F → Option String
  | .leaf (.equals (.str s)) => some s
  | .leaf (.beginsWith s) => some s
  | .leaf (.endsWith s) => some s
  | .leaf (.contains s) => some s
  | .leaf (.pattern p) => some p.source
  | _ => none

/-- The float that a leaf tests for: of an equality with a float, or a bound. -/
def number? : Predicate F → Option Float
  | .leaf (.equals (.number x)) => some x
  | .leaf (.lessThan x) => some x
  | _ => none

/-- The literal of an equality. -/
def literal? : Predicate F → Option (Literal F)
  | .leaf (.equals l) => some l
  | _ => none

/-! ## Equality -/

mutual

/-- Equality of predicates, node by node. -/
def beq : Predicate F → Predicate F → Bool
  | .leaf s, .leaf t => s == t
  | .negation p, .negation q => beq p q
  | .join i ps, .join j qs => i == j && beqAll ps qs
  | _, _ => false

/-- Equality of lists of predicates, position by position. -/
def beqAll : List (Predicate F) → List (Predicate F) → Bool
  | [], [] => true
  | p :: ps, q :: qs => beq p q && beqAll ps qs
  | _, _ => false

end

instance : BEq (Predicate F) := ⟨beq⟩

end Predicate

end Criteria
