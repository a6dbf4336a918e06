/-
# Criteria.Proofs.Evaluation.Summary — verdicts up to the grouping of their failures

The failure of a check mirrors the tree: every join that fails puts one aggregate around the failures of
the children it reached, and a negation puts none (`elements_check_join`, `check_negation_failure`). Two
trees that differ only in how joins are nested therefore fail differently, even if they mean the same.

A `Summary` is what is left of a verdict without that grouping: its value, whether it is clean, and its
elementary failures in order. It is enough to evaluate with. The summary of a join comes from those of its
children, one after the other (`summary_join_cons`), and joins whose children stand in one row are
summarised one after the other (`summary_join_append`), wherever the scan stops.
-/
import Criteria.Proofs.Evaluation.Reach
import Criteria.Proofs.Failure.Elements

namespace Criteria

variable {F : Foreign} {input : Value F} {j : Join}

/-! ## The failures of a check -/

namespace Predicate

/-- A join that fails lies around the failures of the reached children. -/
theorem elements_check_join (ps : List (Predicate F)) :
    ((join j ps).check input).elements =
      ((reached input j ps).flatMap fun p => (p.check input).elements).map fun e =>
        (e.1 + 1, e.2) := by
  rw [Outcome.elements, check_join_failure, Failure.flatMap_elements_collapse, List.flatMap_assoc]
  rfl

theorem elements_check_negation (p : Predicate F) :
    ((negation p).check input).elements = (p.check input).elements := by
  rw [Outcome.elements, check_negation_failure, Outcome.elements]

/-- A check fails with type mismatches only, and with no aggregate that is empty. -/
theorem ofMismatches_of_mem_check_failure (p : Predicate F) :
    ∀ f ∈ (p.check input).failure, f.OfMismatches := by
  induction p with
  | leaf t =>
      intro f hf
      rw [check_leaf] at hf
      cases ht : t.result? input with
      | some b =>
          rw [ht] at hf
          cases hf
      | none =>
          rw [ht] at hf
          cases hf
          exact .typeMismatch
  | negation p ih => rwa [check_negation_failure]
  | join j ps ih =>
      rw [check_join_failure]
      refine Failure.OfMismatches.collapse fun f hf => ?_
      obtain ⟨p, hp, hfp⟩ := List.mem_flatMap.mp hf
      exact ih p (reached_subset ps hp) f (Option.mem_toList.mp hfp)

end Predicate

/-! ## Summaries -/

/-- What a verdict says apart from the grouping of its failures. -/
@[ext]
structure Summary where
  value : Bool
  /-- Whether there was no failure. -/
  clean : Bool
  /-- The elementary failures, from left to right. -/
  failures : List Failure

/-- The summary of a verdict. -/
def Verdict.summary (v : Verdict) : Summary :=
  ⟨v.value, v.isClean, v.elements.map Prod.snd⟩

namespace Summary

/-- The summary of a negation, from that of its child. -/
def negate (s : Summary) : Summary := ⟨s.clean && !s.value, s.clean, s.failures⟩

/-- The summary of a join, from that of its first child and that of the join of the others, which is of
no account if the first child decides. -/
def andThen (j : Join) (s t : Summary) : Summary :=
  if s.value = j.decisive then s else ⟨t.value, s.clean && t.clean, s.failures ++ t.failures⟩

/-- The summary of a join without children. -/
def undecided (j : Join) : Summary := ⟨!j.decisive, true, []⟩

theorem andThen_of_decisive {s : Summary} (t : Summary) (h : s.value = j.decisive) :
    s.andThen j t = s := if_pos h

theorem andThen_of_not_decisive {s : Summary} (t : Summary) (h : s.value ≠ j.decisive) :
    s.andThen j t = ⟨t.value, s.clean && t.clean, s.failures ++ t.failures⟩ := if_neg h

theorem undecided_andThen (j : Join) (t : Summary) : (undecided j).andThen j t = t := by
  have hne : (undecided j).value ≠ j.decisive := by cases j <;> nofun
  rw [andThen_of_not_decisive t hne]
  rfl

theorem andThen_undecided (j : Join) (s : Summary) : s.andThen j (undecided j) = s := by
  by_cases h : s.value = j.decisive
  · exact andThen_of_decisive _ h
  · have hvalue : (!j.decisive) = s.value := (Bool.eq_not_of_ne h).symm
    simp [andThen_of_not_decisive _ h, undecided, hvalue]

theorem andThen_assoc (j : Join) (s t u : Summary) :
    (s.andThen j t).andThen j u = s.andThen j (t.andThen j u) := by
  by_cases hs : s.value = j.decisive
  · rw [andThen_of_decisive t hs, andThen_of_decisive u hs, andThen_of_decisive _ hs]
  · rw [andThen_of_not_decisive t hs, andThen_of_not_decisive _ hs]
    -- the first two together have the value of the second, so they decide if it does
    by_cases ht : t.value = j.decisive
    · rw [andThen_of_decisive u ht, andThen_of_decisive u (by exact ht)]
    · rw [andThen_of_not_decisive u ht, andThen_of_not_decisive u (by exact ht)]
      simp only [Bool.and_assoc, List.append_assoc]

end Summary

theorem Verdict.summary_negate (v : Verdict) : v.negate.summary = v.summary.negate := by
  obtain ⟨value, failure⟩ := v
  cases failure <;> rfl

/-! ## The summary of a check -/

namespace Predicate

/-- What a check says apart from the grouping of its failures. -/
def summary (input : Value F) (p : Predicate F) : Summary := (p.check input).summary

theorem summary_negation (p : Predicate F) :
    (negation p).summary input = (p.summary input).negate := by
  rw [summary, check_negation, Verdict.summary_negate, summary]

theorem summary_join_nil : (join j []).summary input = .undecided j := rfl

theorem summary_join_value_eq_decisive_iff (ps : List (Predicate F)) :
    ((join j ps).summary input).value = j.decisive ↔
      ∃ p ∈ ps, (p.summary input).value = j.decisive :=
  check_join_value_eq_decisive_iff ps

theorem summary_join_clean_iff (ps : List (Predicate F)) :
    ((join j ps).summary input).clean = true ↔
      ∀ p ∈ reached input j ps, (p.summary input).clean = true :=
  check_join_isClean_iff ps

theorem summary_join_failures (ps : List (Predicate F)) :
    ((join j ps).summary input).failures =
      (reached input j ps).flatMap fun p => (p.summary input).failures := by
  show (((join j ps).check input).elements).map Prod.snd = _
  rw [elements_check_join, List.map_map, List.map_flatMap]
  rfl

/-- A join is summarised child after child, up to the first one that decides. -/
theorem summary_join_cons (p : Predicate F) (ps : List (Predicate F)) :
    (join j (p :: ps)).summary input =
      (p.summary input).andThen j ((join j ps).summary input) := by
  by_cases h : (p.summary input).value = j.decisive
  · have hreached : reached input j (p :: ps) = [p] := reached_cons_of_decisive ps h
    rw [Summary.andThen_of_decisive _ h]
    ext1
    · rw [h, summary_join_value_eq_decisive_iff]
      exact ⟨p, List.mem_cons_self, h⟩
    · rw [Bool.eq_iff_iff, summary_join_clean_iff, hreached, List.forall_mem_singleton]
    · rw [summary_join_failures, hreached, List.flatMap_singleton]
  · have hreached : reached input j (p :: ps) = p :: reached input j ps :=
      reached_cons_of_not_decisive ps h
    rw [Summary.andThen_of_not_decisive _ h]
    ext1
    · apply j.eq_of_eq_decisive_iff
      rw [summary_join_value_eq_decisive_iff, summary_join_value_eq_decisive_iff]
      simp [h]
    · rw [Bool.eq_iff_iff, summary_join_clean_iff, hreached, List.forall_mem_cons,
        Bool.and_eq_true, summary_join_clean_iff]
    · rw [summary_join_failures, hreached, List.flatMap_cons, summary_join_failures]

/-- A join of one child says what the child says. -/
theorem summary_join_singleton (p : Predicate F) :
    (join j [p]).summary input = p.summary input := by
  rw [summary_join_cons, summary_join_nil, Summary.andThen_undecided]

/-- A join of two rows of children is summarised one row after the other. -/
theorem summary_join_append (ps qs : List (Predicate F)) :
    (join j (ps ++ qs)).summary input =
      ((join j ps).summary input).andThen j ((join j qs).summary input) := by
  induction ps with
  | nil => rw [List.nil_append, summary_join_nil, Summary.undecided_andThen]
  | cons p ps ih =>
      rw [List.cons_append, summary_join_cons, ih, summary_join_cons, Summary.andThen_assoc]

end Predicate

end Criteria
