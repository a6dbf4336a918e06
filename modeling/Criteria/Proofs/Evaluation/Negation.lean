/-
# Criteria.Proofs.Evaluation.Negation — a predicate and its negation

There are two ways of making a negation, for `not` puts one on or takes one off, and two ways of checking
one, for it inverts a clean verdict and makes a failed one false. Whatever the way, one of the two
predicates is the other with a negation above it, so of their verdicts one is the negation of the other.

That verdicts stand in this relation says three things about them (`Verdict.Opposed`), none of which depends
on which of the two is the upper one. The third is not a consequence of the others: a predicate that had
its negation taken off may be true and failed at once, and then the negation has to be false.
-/
import Criteria.Predicate.Building
import Criteria.Proofs.Evaluation.Reach

namespace Criteria

variable {F : Foreign}

/-! ## Opposed verdicts -/

/-- One of the verdicts stands against the other. -/
structure Verdict.Opposed (v w : Verdict) : Prop where
  failure : w.failure = v.failure
  value : v.isClean = true → w.value = !v.value
  exclusive : ¬ (v.value = true ∧ w.value = true)

namespace Verdict

theorem Opposed.symm {v w : Verdict} (h : v.Opposed w) : w.Opposed v where
  failure := h.failure.symm
  value hw := by
    have hv : v.isClean = true := by rwa [Outcome.isClean, ← h.failure]
    rw [h.value hv, Bool.not_not]
  exclusive hwv := h.exclusive hwv.symm

theorem opposed_negate (v : Verdict) : v.Opposed v.negate where
  failure := v.negate_failure
  value hv := by rw [v.negate_value, hv, Bool.true_and]
  exclusive := by
    rintro ⟨hv, hn⟩
    rw [v.negate_value, hv, Bool.not_true, Bool.and_false] at hn
    cases hn

end Verdict

/-! ## The negation of a predicate -/

namespace Predicate

theorem check_opposed_check_not (p : Predicate F) (input : Value F) :
    (p.check input).Opposed (p.not.check input) := by
  cases p with
  | leaf t => exact Verdict.opposed_negate _
  | join j ps => exact Verdict.opposed_negate _
  | negation p =>
      -- here the negation comes off, and it is the predicate itself whose verdict is negated
      rw [check_negation]
      exact (Verdict.opposed_negate (p.check input)).symm

/-- **The negation is the complement of a clean check, and never an accidental match.** A predicate and its
negation fail alike; if they do not, exactly one of them is true; and they are never both true, failure or
not. -/
theorem check_not_complements (p : Predicate F) (input : Value F) :
    (p.not.check input).failure = (p.check input).failure ∧
      ((p.check input).isClean = true → (p.not.check input).value = !(p.check input).value) ∧
      ¬ ((p.check input).value = true ∧ (p.not.check input).value = true) :=
  have hopposed := check_opposed_check_not p input
  ⟨hopposed.failure, hopposed.value, hopposed.exclusive⟩

/-- A negation that comes off a disjunction. A float leaves both clean; for the absent value the disjunction
is true and failed, and the negation is false. -/
theorem check_not_complements_below_negation :
    ((negation (join .any [leaf (.lessThan 0), leaf .existence]) :
          Predicate .unit).check (.number 1)).isClean = true ∧
      ((negation (join .any [leaf (.lessThan 0), leaf .existence]) :
          Predicate .unit).not.check (.number 1)).value =
        !((negation (join .any [leaf (.lessThan 0), leaf .existence]) :
          Predicate .unit).check (.number 1)).value ∧
      ((negation (join .any [leaf (.lessThan 0), leaf .existence]) :
          Predicate .unit).not.check .absent).value = true ∧
      ((negation (join .any [leaf (.lessThan 0), leaf .existence]) :
          Predicate .unit).check .absent).value ≠ true :=
  have hclean : ((negation (join .any [leaf (.lessThan 0), leaf .existence]) :
      Predicate .unit).check (.number 1)).isClean = true := rfl
  ⟨hclean, (check_not_complements _ _).2.1 hclean, rfl,
    fun h => (check_not_complements _ Value.absent).2.2 ⟨h, rfl⟩⟩

end Predicate

end Criteria
