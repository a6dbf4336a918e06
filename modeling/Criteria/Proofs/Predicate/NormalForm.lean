/-
# Criteria.Proofs.Predicate.NormalForm — what can be built

A predicate is BUILT if a caller can have it: made by one of the builders from what was built before, or
taken from it as a component. The type admits more. What is built is in normal form: joins have two
children or more, and the one child of a negation is no negation (`NormalNode`, asked of every node). The
converse holds as well, so that the normal form is all there is to know of building
(`built_normal_form`).

The form has to hold at every node, since `not` may hand out what is below a negation and any component
may be taken. All builders are made of four operations, and what these four keep holds of everything
that is built (`Built.closure`). On normal forms `not` undoes itself: it puts a negation on what has none
and takes it away again.
-/
import Criteria.Predicate.Building

namespace Criteria.Predicate

variable {F : Foreign} {p q : Predicate F} {j : Join} {ps : List (Predicate F)}

/-! ## Building -/

/-- The predicates that come of a series of operations on predicates. -/
inductive Built : Predicate F → Prop
  | existence : Built existence
  | equalsLiteral (literal : Literal F) : Built (equalsLiteral literal)
  | equals (value : Value F) : Built (equals value)
  | lessThan (bound : Float) : Built (lessThan bound)
  | greaterThan (bound : Float) : Built (greaterThan bound)
  | nearEqual (value epsilon : Float) : Built (nearEqual value epsilon)
  | beginsWith (start : String) : Built (beginsWith start)
  | endsWith (ending : String) : Built (endsWith ending)
  | contains (part : String) : Built (contains part)
  | matching {source : String} {p : Predicate F} : matching? source = some p → Built p
  | not {p : Predicate F} : Built p → Built p.not
  | complement {p : Predicate F} : Built p → Built (~~~p)
  | allOf {p q : Predicate F} {rest : List (Predicate F)} :
      Built p → Built q → (∀ r ∈ rest, Built r) → Built (allOf p q rest)
  | anyOf {p q : Predicate F} {rest : List (Predicate F)} :
      Built p → Built q → (∀ r ∈ rest, Built r) → Built (anyOf p q rest)
  | and {p q : Predicate F} : Built p → Built q → Built (p.and q)
  | or {p q : Predicate F} : Built p → Built q → Built (p.or q)
  | component {p q : Predicate F} : Built p → q ∈ p.components → Built q

/-- What holds of leaves and is kept by negation, by joins of two operands or more and by taking a
component holds of everything that is built. -/
theorem Built.closure {motive : Predicate F → Prop} (leaf : ∀ t, motive (.leaf t))
    (not : ∀ {p}, motive p → motive p.not)
    (joinOf : ∀ j {p q rest}, motive p → motive q → (∀ r ∈ rest, motive r) →
      motive (joinOf j p q rest))
    (component : ∀ {p q}, motive p → q ∈ p.components → motive q) (h : p.Built) : motive p := by
  -- the tests of order are negated disjunctions, one inside the other
  have bounded : ∀ bound, motive (Predicate.greaterThan bound) := fun _ =>
    not (joinOf .any (leaf _) (leaf _) nofun)
  induction h with
  | existence => exact leaf _
  | equalsLiteral literal => exact leaf _
  | equals value => exact leaf _
  | lessThan bound => exact leaf _
  | greaterThan bound => exact bounded bound
  | nearEqual value epsilon => exact not (joinOf .any (bounded _) (leaf _) nofun)
  | beginsWith start => exact leaf _
  | endsWith ending => exact leaf _
  | contains part => exact leaf _
  | matching hp =>
      obtain ⟨pattern, _, rfl⟩ := Option.map_eq_some_iff.mp hp
      exact leaf _
  | not _ ih => exact not ih
  | complement _ ih => exact not ih
  | allOf _ _ _ ihp ihq ihrest => exact joinOf .all ihp ihq ihrest
  | anyOf _ _ _ ihp ihq ihrest => exact joinOf .any ihp ihq ihrest
  | and _ _ ihp ihq => exact joinOf .all ihp ihq nofun
  | or _ _ ihp ihq => exact joinOf .any ihp ihq nofun
  | component _ hq ih => exact component ih hq

/-- No join that is built is without children. -/
theorem Built.populated (h : p.Built) : p.Populated :=
  h.closure .leaf .not .joinOf .component

/-! ## The normal form -/

/-- What the normal form asks of a node. -/
structure NormalNode (p : Predicate F) : Prop where
  /-- A join has two children or more. -/
  join : ∀ j : Join, p.kind = j.kind → 2 ≤ p.components.length
  /-- A negation has one child, and that is no negation. -/
  negation : p.kind = .negation →
    p.components.length = 1 ∧ ∀ c ∈ p.components, c.kind ≠ .negation
  defined : p.kind ≠ .undefined

/-- Every node is as the normal form asks. -/
def Normal (p : Predicate F) : Prop := ∀ q ∈ p.nodes, q.NormalNode

theorem normal_iff : p.Normal ↔ p.NormalNode ∧ ∀ c ∈ p.components, c.Normal := by
  rw [Normal, nodes_eq_cons, List.forall_mem_cons, List.forall_mem_flatMap]
  rfl

theorem Normal.component (h : p.Normal) (hq : q ∈ p.components) : q.Normal :=
  (normal_iff.mp h).2 q hq

theorem normalNode_leaf (t : Test F) : (leaf t).NormalNode where
  join j h := absurd h (t.kind_ne_of_isComposite j.isComposite_kind)
  negation h := absurd h (t.kind_ne_of_isComposite rfl)
  defined := by cases t <;> nofun

theorem normalNode_negation_iff : (negation p).NormalNode ↔ p.kind ≠ .negation := by
  constructor
  · intro h
    exact (h.negation rfl).2 p (List.mem_singleton_self p)
  · intro h
    exact ⟨fun j hj => absurd hj.symm j.kind_ne_negation,
      fun _ => ⟨rfl, List.forall_mem_singleton.mpr h⟩, nofun⟩

theorem normalNode_join_iff : (join j ps).NormalNode ↔ 2 ≤ ps.length := by
  constructor
  · intro h
    exact h.join j rfl
  · intro h
    exact ⟨fun _ _ => h, fun hj => absurd hj j.kind_ne_negation, by cases j <;> nofun⟩

theorem normal_leaf (t : Test F) : (leaf t).Normal :=
  normal_iff.mpr ⟨normalNode_leaf t, nofun⟩

theorem normal_negation_iff : (negation p).Normal ↔ p.kind ≠ .negation ∧ p.Normal := by
  rw [normal_iff, normalNode_negation_iff, components, List.forall_mem_singleton]

theorem normal_join_iff : (join j ps).Normal ↔ 2 ≤ ps.length ∧ ∀ p ∈ ps, p.Normal := by
  rw [normal_iff, normalNode_join_iff, components]

/-! ## Builders and the normal form -/

/-- What is no negation gets one. -/
theorem not_eq_negation (h : p.kind ≠ .negation) : p.not = .negation p := by
  cases p with
  | leaf t => rfl
  | negation p => exact absurd rfl h
  | join j ps => rfl

theorem Normal.not (h : p.Normal) : p.not.Normal := by
  by_cases hp : .negation = p.kind
  · obtain ⟨c, rfl⟩ := exists_negation_of_kind_eq hp
    exact (normal_negation_iff.mp h).2
  · rw [not_eq_negation (Ne.symm hp)]
    exact normal_negation_iff.mpr ⟨Ne.symm hp, h⟩

theorem Normal.joinOf (j : Join) {p q : Predicate F} {rest : List (Predicate F)} (hp : p.Normal)
    (hq : q.Normal) (hrest : ∀ r ∈ rest, r.Normal) : (joinOf j p q rest).Normal := by
  refine normal_join_iff.mpr ⟨Nat.le_add_left 2 rest.length, ?_⟩
  rw [List.forall_mem_cons, List.forall_mem_cons]
  exact ⟨hp, hq, hrest⟩

/-- On normal forms `not` undoes itself. -/
theorem Normal.not_not (h : p.Normal) : p.not.not = p := by
  cases p with
  | leaf t => rfl
  | negation p => exact not_eq_negation (normal_negation_iff.mp h).1
  | join j ps => rfl

theorem Built.normal (h : p.Built) : p.Normal :=
  h.closure normal_leaf .not .joinOf .component

theorem built_leaf (t : Test F) : (leaf t).Built := by
  cases t with
  | existence => exact .existence
  | equals literal => exact .equalsLiteral literal
  | lessThan bound => exact .lessThan bound
  | beginsWith start => exact .beginsWith start
  | endsWith ending => exact .endsWith ending
  | contains part => exact .contains part
  | pattern pattern =>
      have hsource : matching? pattern.source = some (leaf (.pattern pattern) : Predicate F) := by
        rw [matching?, Pattern.compile?_source, Option.map_some]
      exact .matching hsource

theorem Built.joinOf (j : Join) {rest : List (Predicate F)} (hp : p.Built) (hq : q.Built)
    (hrest : ∀ r ∈ rest, r.Built) : (joinOf j p q rest).Built := by
  cases j with
  | all => exact .allOf hp hq hrest
  | any => exact .anyOf hp hq hrest

/-- A normal form is built from its leaves up. -/
theorem Normal.built (h : p.Normal) : p.Built := by
  induction p with
  | leaf t => exact built_leaf t
  | negation p ih =>
      obtain ⟨hkind, hp⟩ := normal_negation_iff.mp h
      rw [← not_eq_negation hkind]
      exact .not (ih hp)
  | join j ps ih =>
      obtain ⟨hlen, hps⟩ := normal_join_iff.mp h
      -- the builders take the first two apart from the rest
      match ps, hlen with
      | p :: q :: rest, _ =>
          have hbuilt : ∀ r ∈ p :: q :: rest, r.Built := fun r hr => ih r hr (hps r hr)
          rw [List.forall_mem_cons, List.forall_mem_cons] at hbuilt
          exact .joinOf j hbuilt.1 hbuilt.2.1 hbuilt.2.2

/-- **What is built is in normal form**, and there `not` is an involution. A predicate is built exactly if
each of its nodes, root and all, is as the normal form asks: the joins have two children or more, the one
child of a negation is no negation, and every kind is known. The negation of the negation of what is
built is that predicate itself. -/
theorem built_normal_form (p : Predicate F) :
    (p.Built ↔ ∀ q ∈ p.nodes, q.NormalNode) ∧ (p.Built → p.not.not = p) :=
  ⟨⟨Built.normal, Normal.built⟩, fun h => h.normal.not_not⟩

/-- A disjunction that was taken from below a negation, and that negation itself; some bounds are no
numbers. -/
theorem built_normal_form_below_negation :
    ((anyOf (greaterThan (0 / 0)) (equals (.number (0 / 0))) [existence] :
          Predicate .unit).not.not =
        anyOf (greaterThan (0 / 0)) (equals (.number (0 / 0))) [existence]) ∧
      ((anyOf (greaterThan (0 / 0)) (equals (.number (0 / 0))) [existence] :
          Predicate .unit).not.not.not =
        (anyOf (greaterThan (0 / 0)) (equals (.number (0 / 0))) [existence]).not) := by
  have hbuilt : (anyOf (greaterThan (0 / 0)) (equals (.number (0 / 0))) [existence] :
      Predicate .unit).not.Built :=
    .not (.anyOf (.greaterThan _) (.equals _) (List.forall_mem_singleton.mpr .existence))
  exact ⟨(built_normal_form _).2 (.component hbuilt (List.mem_singleton_self _)),
    (built_normal_form _).2 hbuilt⟩

end Criteria.Predicate
