/-
# Criteria.Proofs.Evaluation.Equals — the check of an equality

An equality test has three ways to its answer. A literal that is a text looks for a text in the input, one
that is a float for a float, and any other compares types first and values then. The three ways meet: each
literal stands for a value, and its test accepts the inputs of the type of that value and compares them with
it (`Literal.test?_eq`). So nothing depends on whether a text or a float was sorted into its place or was put
among the other values, except for what is rendered.

That an equality may be turned around, input for literal, needs the comparisons of the caller's types to be
symmetric, and no more: they need not be transitive, nor reflexive.
-/
import Criteria.Predicate.Building
import Criteria.Proofs.Evaluation.Reach
import Criteria.Proofs.Value.Equality

namespace Criteria

variable {F : Foreign}

/-- A literal of any sort accepts the inputs of the type of its value, and compares them with it. -/
theorem Literal.test?_eq (l : Literal F) (input : Value F) :
    l.test? input = if l.toValue.sameType input then some (l.toValue == input) else none := by
  cases l with
  | other v => rfl
  | str s =>
      cases input with
      | str t =>
          show some (t == s) = some ((Value.str s : Value F) == .str t)
          rw [Value.str_beq_str, BEq.comm]
      | _ => rfl
  | number x =>
      cases input with
      | number y =>
          show some (y == x) = some ((Value.number x : Value F) == .number y)
          rw [Value.number_beq_number, BEq.comm]
      | _ => rfl

namespace Predicate

theorem check_equalsLiteral (l : Literal F) (input : Value F) :
    (equalsLiteral l).check input =
      if l.toValue.sameType input then .clean (l.toValue == input)
      else .failed false .typeMismatch := by
  rw [equalsLiteral, check_leaf, Test.result?, Literal.test?_eq]
  cases l.toValue.sameType input <;> rfl

theorem check_equals (w input : Value F) :
    (equals w).check input =
      if w.sameType input then .clean (w == input) else .failed false .typeMismatch := by
  rw [equals, check_equalsLiteral, Literal.toValue_ofValue]

theorem check_equals_isClean (w input : Value F) :
    ((equals w).check input).isClean = w.sameType input := by
  rw [check_equals]
  cases w.sameType input <;> rfl

theorem check_equals_of_sameType {w input : Value F} (h : w.sameType input = true) :
    (equals w).check input = .clean (w == input) := by
  rw [check_equals, if_pos h]

theorem check_equals_comm [F.Symmetric] (w input : Value F) :
    (equals w).check input = (equals input).check w := by
  rw [check_equals, check_equals, w.sameType_comm, w.beq_comm]

/-- The input that a literal was made of passes its test exactly if it equals itself. -/
theorem check_equals_self_iff (w : Value F) :
    (equals w).check w = .clean true ↔ ∀ u ∈ w.parts, u.IsSelfEqual := by
  rw [check_equals_of_sameType w.sameType_self, ← Value.beq_self_iff]
  exact ⟨congrArg Outcome.value, congrArg Outcome.clean⟩

/-- **The ways to the answer of an equality agree.** Provided that the comparisons of the caller's types are
symmetric, the check of an equality does not depend on the sort of literal that its value was put into; it
is clean exactly if the input has the type of the value, and then says whether they are equal; value and
input may be exchanged; and a value passes its own test exactly if there is neither a NaN nor a foreign item
unequal to itself in it. -/
theorem equals_paths_agree [F.Symmetric] (w input : Value F) :
    (equals w).check input = (equalsLiteral (.other w)).check input ∧
      (((equals w).check input).isClean = true ↔ w.sameType input = true) ∧
      (w.sameType input = true → ((equals w).check input).value = (w == input)) ∧
      (equals w).check input = (equals input).check w ∧
      ((equals w).check w = .clean true ↔ ∀ u ∈ w.parts,
        (∀ x, u = .number x → x.isNaN = false) ∧
          ∀ item, u = .foreign item → (item == item) = true) := by
  refine ⟨?_, ?_, fun h => ?_, check_equals_comm w input, check_equals_self_iff w⟩
  · rw [check_equals, check_equalsLiteral, Literal.toValue]
  · rw [check_equals_isClean]
  · rw [check_equals_of_sameType h]
    rfl

/-- The two zeros, of which one is the literal and one the input, and a NaN of a caller's type below a list
and a map. -/
theorem equals_paths_agree_on_zeros :
    (equals (.number 0) : Predicate .floats).check (.number (-0)) =
        (equalsLiteral (.other (.number 0)) : Predicate .floats).check (.number (-0)) ∧
      ((equals (.number 0) : Predicate .floats).check (.number (-0))).value =
        ((.number 0 : Value .floats) == .number (-0)) ∧
      (equals (.list [.map [("a", .foreign ⟨(), (0 / 0 : Float)⟩)]]) : Predicate .floats).check
        (.list [.map [("a", .foreign ⟨(), (0 / 0 : Float)⟩)]]) ≠ .clean true := by
  have hzeros := equals_paths_agree (.number 0 : Value .floats) (.number (-0))
  refine ⟨hzeros.1, hzeros.2.2.1 rfl, fun h => ?_⟩
  have hparts := (equals_paths_agree
    (.list [.map [("a", .foreign ⟨(), (0 / 0 : Float)⟩)]] : Value .floats) .absent).2.2.2.2.mp h
  have hnan := (hparts (.foreign ⟨(), (0 / 0 : Float)⟩) (.tail _ (.tail _ (.head _)))).2 _ rfl
  exact absurd hnan (by decide +kernel)

end Predicate

end Criteria
