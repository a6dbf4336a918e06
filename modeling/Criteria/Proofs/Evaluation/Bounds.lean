/-
# Criteria.Proofs.Evaluation.Bounds — the check of the tests of order

Of the tests of order only "less than" is a leaf. The two others are each NEITHER of two predicates, the
negation of their disjunction, and that is all the evaluator has to be asked for: neither of two clean
checks is clean, and true if both are false (`check_neither_of_clean`); neither of two checks that refuse
the input is false, and fails with both failures (`check_neither_of_failed`).

The rest is the order of floats, which is total on the numbers and leaves a NaN out. To be neither less
than the bound nor equal to it is not to be AT MOST the bound. Of two numbers that is the strict order,
but it holds as soon as one of the two is a NaN, which is at most nothing and has nothing at most it. So
`greaterThan` is the strict order between numbers only. `nearEqual` puts a second negation above it, and
the two cancel: what is left of its upper end is "at most", which a NaN does not pass. Its lower end is
"not less than", which is "at least" unless the end itself is a NaN.
-/
import Criteria.Proofs.Evaluation.Classical
import Criteria.Proofs.Evaluation.Equals

namespace Criteria.Predicate

variable {F : Foreign} {input : Value F}

/-! ## Neither of two -/

/-- A join is clean if all of its children are, and then combines their values. -/
theorem check_join_of_clean {j : Join} {ps : List (Predicate F)}
    (h : ∀ p ∈ ps, (p.check input).isClean = true) :
    (join j ps).check input = .clean (j.combine (ps.map fun p => (p.check input).value)) := by
  have hclean : ((join j ps).check input).isClean = true :=
    (check_join_isClean_iff ps).mpr fun p hp => h p (reached_subset ps hp)
  rw [Outcome.eq_clean hclean, check_join_value]

/-- The negation of the disjunction of two predicates. -/
def neither (p q : Predicate F) : Predicate F := .not (anyOf p q [])

theorem greaterThan_eq_neither (bound : Float) :
    (greaterThan bound : Predicate F) = neither (lessThan bound) (equals (.number bound)) := rfl

theorem nearEqual_eq_neither (value epsilon : Float) :
    (nearEqual value epsilon : Predicate F) =
      neither (greaterThan (value + epsilon)) (lessThan (value - epsilon)) := rfl

theorem check_neither (p q : Predicate F) (input : Value F) :
    (neither p q).check input = ((join .any [p, q]).check input).negate := rfl

theorem check_neither_of_clean {p q : Predicate F} {a b : Bool} (hp : p.check input = .clean a)
    (hq : q.check input = .clean b) : (neither p q).check input = .clean (!(a || b)) := by
  have hclean : ∀ r ∈ [p, q], (r.check input).isClean = true := by
    simp [hp, hq, Outcome.clean]
  rw [check_neither, check_join_of_clean hclean, List.map_cons, List.map_singleton, hp, hq]
  simp [Join.combine, Outcome.clean, Verdict.negate]

theorem check_neither_of_failed {p q : Predicate F} {f g : Failure}
    (hp : p.check input = .failed false f) (hq : q.check input = .failed false g) :
    (neither p q).check input = .failed false (.aggregate [f, g]) := by
  have hreached : reached input .any [p, q] = [p, q] :=
    reached_eq_self (by simp [hp, hq, Outcome.failed, Join.decisive])
  have hfailure : ((join .any [p, q]).check input).failure = some (.aggregate [f, g]) := by
    rw [check_join_failure, hreached]
    simp [hp, hq, Outcome.failed, Aggregate.collapse, Aggregate.ofList, Aggregate.isEmpty,
      Aggregate.toFailure]
  rw [check_neither, Verdict.negate, hfailure]

/-! ## The leaves -/

theorem check_lessThan_number (bound x : Float) :
    (lessThan bound : Predicate F).check (.number x) = .clean (decide (x < bound)) := by
  rw [lessThan, check_leaf]
  rfl

theorem check_lessThan_of_number?_eq_none (bound : Float) (h : input.number? = none) :
    (lessThan bound).check input = .failed false .typeMismatch := by
  rw [lessThan, check_leaf, Test.result?, h]
  rfl

theorem check_equals_number (y x : Float) :
    (equals (.number y) : Predicate F).check (.number x) = .clean (x == y) := by
  rw [check_equals_of_sameType rfl, Value.number_beq_number, BEq.comm]

theorem check_equals_of_number?_eq_none (y : Float) (h : input.number? = none) :
    (equals (.number y)).check input = .failed false .typeMismatch := by
  have htype : (Value.number y).sameType input = false := by
    rw [← input.isSome_number? y, h]
    rfl
  rw [check_equals, htype]
  rfl

/-! ## Greater than -/

/-- A float is found greater than the bound if it is not at most the bound. -/
theorem check_greaterThan_number (bound x : Float) :
    (greaterThan bound : Predicate F).check (.number x) = .clean (!decide (x ≤ bound)) := by
  have hle : (decide (x < bound) || x == bound) = decide (x ≤ bound) := by
    rw [Bool.eq_iff_iff, decide_eq_true_iff, Number.le_iff_lt_or_beq, Bool.or_eq_true,
      decide_eq_true_iff]
  rw [greaterThan_eq_neither, check_neither_of_clean (check_lessThan_number bound x)
    (check_equals_number bound x), hle]

theorem check_greaterThan_of_number?_eq_none (bound : Float) (h : input.number? = none) :
    (greaterThan bound).check input =
      .failed false (.aggregate [.typeMismatch, .typeMismatch]) := by
  rw [greaterThan_eq_neither]
  exact check_neither_of_failed (check_lessThan_of_number?_eq_none bound h)
    (check_equals_of_number?_eq_none bound h)

/-- The answer is that of the strict order exactly if two numbers are compared. -/
theorem check_greaterThan_value_eq_iff (bound x : Float) :
    ((greaterThan bound : Predicate F).check (.number x)).value = decide (bound < x) ↔
      bound.isNaN = false ∧ x.isNaN = false := by
  have hvalue : ((greaterThan bound : Predicate F).check (.number x)).value =
      decide (¬ x ≤ bound) := by
    rw [check_greaterThan_number, decide_not]
    rfl
  have hnumbers : ¬ (x.isNaN = true ∨ bound.isNaN = true) ↔
      bound.isNaN = false ∧ x.isNaN = false := by
    rw [not_or, Bool.not_eq_true, Bool.not_eq_true, and_comm]
  rw [hvalue, decide_eq_decide, Number.not_le_iff, or_iff_left_iff_imp, ← hnumbers]
  constructor
  · intro h hnan
    -- a NaN among them would put the two in strict order, and what is in that order is a number
    exact hnumbers.mpr (Number.isNaN_eq_false_of_lt (h hnan)) hnan
  · exact fun hnone hnan => absurd hnan hnone

/-- **Greater than is the strict order between numbers.** The check of a float is clean, and says whether
the float is above the bound or one of the two is a NaN; so it agrees with the strict order exactly if
neither is. Every other input is refused by both tests. -/
theorem greaterThan_strict_between_numbers (bound : Float) :
    (∀ x : Float,
      (greaterThan bound : Predicate F).check (.number x) =
          .clean (decide (bound < x ∨ x.isNaN = true ∨ bound.isNaN = true)) ∧
        (((greaterThan bound : Predicate F).check (.number x)).value = decide (bound < x) ↔
          bound.isNaN = false ∧ x.isNaN = false)) ∧
      ∀ input : Value F, (∀ x, input ≠ .number x) →
        (greaterThan bound).check input =
          .failed false (.aggregate [.typeMismatch, .typeMismatch]) := by
  refine ⟨fun x => ⟨?_, check_greaterThan_value_eq_iff bound x⟩, fun input h => ?_⟩
  · rw [check_greaterThan_number, ← decide_not, decide_eq_decide.mpr (Number.not_le_iff x bound)]
  · exact check_greaterThan_of_number?_eq_none bound (Value.number?_eq_none h)

/-- A whole number above the bound is no float, and refused. -/
theorem greaterThan_strict_between_numbers_on_integer :
    (∀ x, (Value.integer 11 : Value .unit) ≠ .number x) ∧
      (greaterThan 10 : Predicate .unit).check (.integer 11) =
        .failed false (.aggregate [.typeMismatch, .typeMismatch]) :=
  have hinteger : ∀ x, (Value.integer 11 : Value .unit) ≠ .number x := nofun
  ⟨hinteger, (greaterThan_strict_between_numbers 10).2 _ hinteger⟩

/-- A NaN is found greater than ten, though in the order of floats it is not. -/
theorem greaterThan_accepts_nan :
    (greaterThan 10 : Predicate .unit).check (.number (0 / 0)) = .clean true ∧
      ¬ (10 : Float) < 0 / 0 := by
  decide +kernel

/-! ## Near -/

/-- A float is found near if it is at most the upper end and not less than the lower one. -/
theorem check_nearEqual_number (value epsilon x : Float) :
    (nearEqual value epsilon : Predicate F).check (.number x) =
      .clean (decide (x ≤ value + epsilon ∧ ¬ x < value - epsilon)) := by
  rw [nearEqual_eq_neither, check_neither_of_clean (check_greaterThan_number _ x)
    (check_lessThan_number _ x), Bool.not_or, Bool.not_not, ← decide_not, ← Bool.decide_and]

theorem check_nearEqual_of_number?_eq_none (value epsilon : Float) (h : input.number? = none) :
    (nearEqual value epsilon).check input =
      .failed false (.aggregate [.aggregate [.typeMismatch, .typeMismatch], .typeMismatch]) := by
  rw [nearEqual_eq_neither]
  exact check_neither_of_failed (check_greaterThan_of_number?_eq_none _ h)
    (check_lessThan_of_number?_eq_none _ h)

/-- **Near is membership in the closed interval.** If the lower end of the interval is a number, then the
check of a float is clean and says whether the float lies between the two ends, these included. An input
that is no float is refused by all three tests. -/
theorem nearEqual_closed_interval (value epsilon : Float) :
    ((value - epsilon).isNaN = false → ∀ x : Float,
      (nearEqual value epsilon : Predicate F).check (.number x) =
        .clean (decide (value - epsilon ≤ x ∧ x ≤ value + epsilon))) ∧
      ∀ input : Value F, (∀ x, input ≠ .number x) →
        (nearEqual value epsilon).check input =
          .failed false
            (.aggregate [.aggregate [.typeMismatch, .typeMismatch], .typeMismatch]) := by
  refine ⟨fun hlower x => ?_, fun input h => ?_⟩
  · have hends : x ≤ value + epsilon ∧ ¬ x < value - epsilon ↔
        value - epsilon ≤ x ∧ x ≤ value + epsilon := by
      rw [and_comm]
      refine and_congr_left fun hupper => ?_
      -- what is at most the upper end is a number, and so is the lower end
      rw [Number.not_lt_iff, hlower, (Number.isNaN_eq_false_of_le hupper).1]
      simp
    rw [check_nearEqual_number, decide_eq_decide.mpr hends]
  · exact check_nearEqual_of_number?_eq_none value epsilon (Value.number?_eq_none h)

/-- The two ends of an interval, of which the lower is a zero and the input the other zero; a NaN; an
interval whose upper end is a NaN; and a text. -/
theorem nearEqual_closed_interval_at_ends :
    ((1 : Float) - 1).isNaN = false ∧
      (nearEqual 1 1 : Predicate .unit).check (.number (-0)) = .clean true ∧
      (nearEqual 1 1 : Predicate .unit).check (.number 2) = .clean true ∧
      (nearEqual 1 1 : Predicate .unit).check (.number (0 / 0)) = .clean false ∧
      ((1 / 0 : Float) - (-1 / 0)).isNaN = false ∧
      (nearEqual (1 / 0) (-1 / 0) : Predicate .unit).check (.number (1 / 0)) = .clean false ∧
      (∀ x, (Value.str "1" : Value .unit) ≠ .number x) ∧
      (nearEqual 1 1 : Predicate .unit).check (.str "1") =
        .failed false
          (.aggregate [.aggregate [.typeMismatch, .typeMismatch], .typeMismatch]) := by
  have hzero : ((1 : Float) - 1).isNaN = false := by decide +kernel
  have hinfinite : ((1 / 0 : Float) - (-1 / 0)).isNaN = false := by decide +kernel
  have htext : ∀ x, (Value.str "1" : Value .unit) ≠ .number x := nofun
  refine ⟨hzero, ?_, ?_, ?_, hinfinite, ?_, htext, (nearEqual_closed_interval 1 1).2 _ htext⟩
  · rw [(nearEqual_closed_interval 1 1).1 hzero, decide_eq_true (by decide +kernel)]
  · rw [(nearEqual_closed_interval 1 1).1 hzero, decide_eq_true (by decide +kernel)]
  · rw [(nearEqual_closed_interval 1 1).1 hzero, decide_eq_false (by decide +kernel)]
  · rw [(nearEqual_closed_interval (1 / 0) (-1 / 0)).1 hinfinite,
      decide_eq_false (by decide +kernel)]

end Criteria.Predicate
