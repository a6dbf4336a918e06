/-
# Criteria.Proofs.Evaluation.Flat — nested joins of one kind

A conjunction of conjunctions asks for no more than one long conjunction, and so with disjunctions.
`flat` takes the inner ones away: at every depth the children of a join whose parent joins in the same
way are put in its place, in order, so that no join stands directly below one of its kind (`IsFlat`).
Joining step by step and joining all at once give the same flat tree (`flat_joinOf_joinOf`).

What is lost is the grouping of failures and nothing else (`check_flat_up_to_grouping`). The inner scan
may stop early, and then so does the outer one, at the same leaf: this is `summary_join_append`, that two
rows of children are summarised one after the other. Negations are why the summary has to know whether
the verdict is clean: they look at the presence of a failure, not only at the value.
-/
import Criteria.Predicate.Building
import Criteria.Proofs.Evaluation.Summary

namespace Criteria.Predicate

variable {F : Foreign} {input : Value F} {j : Join}

/-! ## Flat trees -/

/-- What a predicate puts into the row of children of a join: its own children if it joins in the same
way, otherwise itself. -/
def operands (j : Join) : Predicate F → List (Predicate F)
  | .leaf t => [.leaf t]
  | .negation p => [.negation p]
  | .join i ps => if i = j then ps else [.join i ps]

mutual

/-- The predicate with the children of every join below one of its kind in the place of that join. -/
def flat : Predicate F → Predicate F
  | .leaf t => .leaf t
  | .negation p => .negation (flat p)
  | .join j ps => .join j (splice j ps)

/-- The row of children of a join, each flat and with its own children in its place if it joins in the
same way. -/
def splice (j : Join) : List (Predicate F) → List (Predicate F)
  | [] => []
  | p :: ps => (flat p).operands j ++ splice j ps

end

/-- No join stands directly below one of its kind. -/
inductive IsFlat : Predicate F → Prop
  | leaf (t : Test F) : IsFlat (.leaf t)
  | negation {p : Predicate F} : IsFlat p → IsFlat (.negation p)
  | join {j : Join} {ps : List (Predicate F)} :
      (∀ p ∈ ps, IsFlat p) → (∀ p ∈ ps, ∀ qs, p ≠ .join j qs) → IsFlat (.join j ps)

theorem operands_join_self (ps : List (Predicate F)) : (join j ps).operands j = ps := if_pos rfl

theorem operands_of_ne {p : Predicate F} (h : ∀ qs, p ≠ .join j qs) : p.operands j = [p] := by
  cases p with
  | leaf t => rfl
  | negation p => rfl
  | join i ps =>
      have hne : i ≠ j := by
        rintro rfl
        exact h ps rfl
      exact if_neg hne

/-- What a flat predicate puts into a row is flat, and there is no join of the kind in question. -/
theorem IsFlat.of_mem_operands {p q : Predicate F} (hp : p.IsFlat) (hq : q ∈ p.operands j) :
    q.IsFlat ∧ ∀ qs, q ≠ .join j qs := by
  by_cases h : ∃ ps, p = .join j ps
  · obtain ⟨ps, rfl⟩ := h
    rw [operands_join_self] at hq
    cases hp with
    | join hps hne => exact ⟨hps q hq, hne q hq⟩
  · have hne : ∀ ps, p ≠ .join j ps := fun ps hps => h ⟨ps, hps⟩
    rw [operands_of_ne hne, List.mem_singleton] at hq
    subst hq
    exact ⟨hp, hne⟩

theorem splice_eq_flatMap (ps : List (Predicate F)) :
    splice j ps = ps.flatMap fun p => p.flat.operands j := by
  induction ps with
  | nil => rfl
  | cons p ps ih => rw [splice, ih, List.flatMap_cons]

theorem flat_isFlat (p : Predicate F) : p.flat.IsFlat := by
  induction p with
  | leaf t => exact .leaf t
  | negation p ih => exact .negation ih
  | join j ps ih =>
      have hrow : ∀ q ∈ splice j ps, q.IsFlat ∧ ∀ qs, q ≠ .join j qs := by
        intro q hq
        rw [splice_eq_flatMap] at hq
        obtain ⟨p, hp, hqp⟩ := List.mem_flatMap.mp hq
        exact (ih p hp).of_mem_operands hqp
      exact .join (fun q hq => (hrow q hq).1) fun q hq => (hrow q hq).2

/-- A flat predicate is left as it is. -/
theorem IsFlat.flat_eq {p : Predicate F} (h : p.IsFlat) : p.flat = p := by
  induction h with
  | leaf t => rfl
  | negation _ ih => rw [flat, ih]
  | @join j ps _ hne ih =>
      have hrow : splice j ps = ps := by
        rw [splice_eq_flatMap]
        calc ps.flatMap (fun p => p.flat.operands j)
            = ps.flatMap (fun p => [p]) := List.flatMap_congr fun p hp => by
              rw [ih p hp, operands_of_ne (hne p hp)]
          _ = ps := List.flatMap_singleton' ps
      rw [flat, hrow]

/-- A join put together step by step becomes the one put together at once. -/
theorem flat_joinOf_joinOf (j : Join) (p q r : Predicate F) :
    (joinOf j (joinOf j p q []) r []).flat = (joinOf j p q [r]).flat := by
  simp only [joinOf, flat, splice, operands_join_self, List.append_nil, List.append_assoc]

/-! ## Checking flat trees -/

/-- A predicate says the same as the join of what it puts into a row. -/
theorem summary_join_operands (p : Predicate F) :
    (join j (p.operands j)).summary input = p.summary input := by
  by_cases h : ∃ ps, p = .join j ps
  · obtain ⟨ps, rfl⟩ := h
    rw [operands_join_self]
  · rw [operands_of_ne fun ps hps => h ⟨ps, hps⟩, summary_join_singleton]

theorem summary_join_splice (ps : List (Predicate F))
    (hps : ∀ p ∈ ps, p.flat.summary input = p.summary input) :
    (join j (splice j ps)).summary input = (join j ps).summary input := by
  induction ps with
  | nil => rfl
  | cons p ps ih =>
      rw [List.forall_mem_cons] at hps
      rw [splice, summary_join_append, summary_join_operands, hps.1, ih hps.2, summary_join_cons]

theorem summary_flat (p : Predicate F) (input : Value F) :
    p.flat.summary input = p.summary input := by
  induction p with
  | leaf t => rfl
  | negation p ih => rw [flat, summary_negation, ih, summary_negation]
  | join j ps ih => rw [flat, summary_join_splice ps ih]

/-- **Nesting joins of one kind groups failures and does nothing else.** Of a predicate and its flat
form the checks have the same value, are clean together and fail with the same elementary failures in
the same order; and no join of the flat form stands directly below one of its kind. -/
theorem check_flat_up_to_grouping (p : Predicate F) (input : Value F) :
    (p.flat.check input).value = (p.check input).value ∧
      (p.flat.check input).isClean = (p.check input).isClean ∧
      (p.flat.check input).elements.map Prod.snd = (p.check input).elements.map Prod.snd ∧
      p.flat.IsFlat := by
  have hsummary : (p.flat.check input).summary = (p.check input).summary := summary_flat p input
  refine ⟨?_, ?_, ?_, flat_isFlat p⟩
  · exact congrArg Summary.value hsummary
  · exact congrArg Summary.clean hsummary
  · exact congrArg Summary.failures hsummary

/-- A disjunction in a disjunction, both with a leaf that refuses the input: its failures lie in one
aggregate instead of two. -/
example : ((join .any [join .any [leaf (.lessThan 0), negation (leaf .existence)],
      leaf (.beginsWith "a")] : Predicate .unit).check .absent).failure =
        some (.aggregate [.aggregate [.typeMismatch], .typeMismatch]) ∧
    ((join .any [join .any [leaf (.lessThan 0), negation (leaf .existence)],
      leaf (.beginsWith "a")] : Predicate .unit).flat.check .absent).failure =
        some (.aggregate [.typeMismatch, .typeMismatch]) := ⟨rfl, rfl⟩

end Criteria.Predicate
