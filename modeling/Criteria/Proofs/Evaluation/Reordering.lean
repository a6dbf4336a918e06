/-
# Criteria.Proofs.Evaluation.Reordering — the order of children

A check visits the children of a join in their order, so another order makes it visit other leaves and
fail with other failures. `Reordered` relates a predicate to those that have the children of some of its
joins in another order, of one join or of many, at any depth; it can leave alone what is below negations.

What survives is the value, because a join combines the values of ALL its children and a combination has
no order. This goes for every function of predicates that is made in this way (`eq_of_reordered`), and
there are two of them. The value of a check does not pass through negations: a failed child makes a
negation false whatever its value was, and whether a child fails depends on the order below it. Plain
boolean evaluation does pass through them, and clean verdicts are plain boolean answers. Hence the two
halves of `check_value_of_reordered`.
-/
import Criteria.Proofs.Evaluation.Classical

namespace Criteria.Predicate

variable {F : Foreign} {input : Value F} {p q : Predicate F} {belowNegations : Bool}

/-! ## Other orders -/

/-- The second predicate is the first one with the children of some joins in another order. Joins below
a negation are among them only if `belowNegations` holds. -/
inductive Reordered (belowNegations : Bool) : Predicate F → Predicate F → Prop
  | refl (p : Predicate F) : Reordered belowNegations p p
  | trans {p q r : Predicate F} :
      Reordered belowNegations p q → Reordered belowNegations q r → Reordered belowNegations p r
  | perm {j : Join} {ps qs : List (Predicate F)} :
      ps.Perm qs → Reordered belowNegations (.join j ps) (.join j qs)
  | child {j : Join} {p q : Predicate F} (before after : List (Predicate F)) :
      Reordered belowNegations p q →
      Reordered belowNegations (.join j (before ++ p :: after)) (.join j (before ++ q :: after))
  | negation {p q : Predicate F} :
      belowNegations = true → Reordered belowNegations p q →
      Reordered belowNegations (.negation p) (.negation q)

/-! ## What does not depend on the order -/

/-- A value that a join combines from those of its children is the same in every order, if it passes
through the negations that may stand above. -/
theorem eq_of_reordered (value : Predicate F → Bool)
    (hjoin : ∀ j ps, value (.join j ps) = j.combine (ps.map value))
    (hnegation : belowNegations = true →
      ∀ p q, value p = value q → value (.negation p) = value (.negation q))
    (h : p.Reordered belowNegations q) : value p = value q := by
  induction h with
  | refl p => rfl
  | trans _ _ ihpq ihqr => exact ihpq.trans ihqr
  | perm hperm => rw [hjoin, hjoin, Join.combine_eq_of_perm (hperm.map value)]
  | child before after _ ih =>
      rw [hjoin, hjoin, List.map_append, List.map_append, List.map_cons, List.map_cons, ih]
  | negation hbelow _ ih => exact hnegation hbelow _ _ ih

/-- The value of a check does not depend on the order of children above all negations. -/
theorem check_value_eq_of_reordered (h : p.Reordered false q) :
    (p.check input).value = (q.check input).value := by
  refine eq_of_reordered (fun p => (p.check input).value) (fun _ ps => check_join_value ps) ?_ h
  intro hbelow
  exact absurd hbelow Bool.false_ne_true

theorem classicals_constant (b : Bool) (i : Nat) (ps : List (Predicate F)) :
    classicals input (.constant b) i ps = ps.map (classical input (.constant b)) := by
  induction ps generalizing i with
  | nil => rfl
  | cons p ps ih => rw [classicals, ih, List.map_cons, Assignment.below_constant]

/-- A plain boolean answer does not depend on the order of children anywhere, if the assignment does not
tell positions apart. -/
theorem classical_constant_eq_of_reordered (b : Bool) (h : p.Reordered belowNegations q) :
    p.classical input (.constant b) = q.classical input (.constant b) := by
  refine eq_of_reordered (classical input (.constant b)) (fun j ps => ?_) (fun _ p q hpq => ?_) h
  · rw [classical, classicals_constant]
  · rw [classical, classical, Assignment.below_constant, hpq]

/-- Firm verdicts do not depend on the order of children at all. -/
theorem check_value_eq_of_firm (h : p.Reordered belowNegations q) (hp : (p.check input).Firm)
    (hq : (q.check input).Firm) : (p.check input).value = (q.check input).value := by
  -- through plain evaluation, any assignment will do that gives every position the same answer
  calc (p.check input).value
      = p.classical input (.constant false) := (classical_eq_of_firm p hp _).symm
    _ = q.classical input (.constant false) := classical_constant_eq_of_reordered false h
    _ = (q.check input).value := classical_eq_of_firm q hq _

/-- **The order of children is not seen in the value.** If the children of any joins are put in another
order, then two clean checks give the same value; and if none of these joins is below a negation, two
checks give the same value even if they fail. -/
theorem check_value_of_reordered (p q : Predicate F) (input : Value F) :
    (p.Reordered true q → (p.check input).isClean = true → (q.check input).isClean = true →
        (p.check input).value = (q.check input).value) ∧
      (p.Reordered false q → (p.check input).value = (q.check input).value) := by
  refine ⟨fun h hp hq => ?_, check_value_eq_of_reordered⟩
  exact check_value_eq_of_firm h (Verdict.firm_of_isClean hp) (Verdict.firm_of_isClean hq)

/-- A conjunction below a negation, decided by one leaf or by the other, with a third one that refuses
the input and is visited in neither order; and a disjunction that fails in one order only. -/
theorem check_value_of_reordered_around_refusing_leaf :
    ((negation (join .all [negation (leaf .existence), leaf (.lessThan 0),
          negation (leaf (.equals (.other .absent)))]) : Predicate .unit).check .absent).value =
        ((negation (join .all [negation (leaf (.equals (.other .absent))),
          negation (leaf .existence), leaf (.lessThan 0)]) : Predicate .unit).check .absent).value ∧
      ((join .any [leaf (.lessThan 0), leaf .existence] : Predicate .unit).check .absent).value =
        ((join .any [leaf .existence, leaf (.lessThan 0)] : Predicate .unit).check .absent).value ∧
      ((join .any [leaf (.lessThan 0), leaf .existence] : Predicate .unit).check .absent).isClean ≠
        ((join .any [leaf .existence, leaf (.lessThan 0)] :
          Predicate .unit).check .absent).isClean := by
  refine ⟨?_, ?_, nofun⟩
  · exact (check_value_of_reordered _ _ .absent).1
      (.negation rfl (.perm (List.perm_append_comm : ([_, _] ++ [_]).Perm ([_] ++ [_, _])))) rfl rfl
  · exact (check_value_of_reordered _ _ .absent).2 (.perm (List.Perm.swap _ _ []))

/-- Below a negation the value may change with the order, if one of the checks fails: the conjunction is
decided by the leaf that refuses the input, or before it is visited. -/
example :
    ((negation (join .all [leaf (.lessThan 0), negation (leaf .existence)]) :
      Predicate .unit).check .absent).value = false ∧
    ((negation (join .all [negation (leaf .existence), leaf (.lessThan 0)]) :
      Predicate .unit).check .absent).value = true := ⟨rfl, rfl⟩

end Criteria.Predicate
