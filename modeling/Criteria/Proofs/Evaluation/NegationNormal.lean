/-
# Criteria.Proofs.Evaluation.NegationNormal — negations at the leaves

By De Morgan's laws a negation can be pushed through a join, which turns it into its dual, until it stands
on a leaf or meets another negation and is gone. `negationNormal` does so everywhere. The rewriting is
done for a predicate and for its negation at once (`pushed`), as the two need each other.

A check does not obey these laws in general. A failed child is false and decides a conjunction; its
negation is false as well and does not decide the disjunction, so that the two scans part company there.
On CLEAN checks they hold (`check_negationNormal`), and whether a check is clean does not change. The
invariant for both is `Summary.Turned`: it says of the pushed form that it is clean whenever the original
is, and speaks of its value only in that case. This is enough, because two scans whose children are
turned part company at a failed child at the earliest.
-/
import Criteria.Predicate.Building
import Criteria.Proofs.Evaluation.Summary

namespace Criteria

variable {F : Foreign} {input : Value F} {j : Join}

/-! ## Pushing negations down -/

/-- The join that a join becomes under a negation, or without one. -/
def Join.under (j : Join) (negated : Bool) : Join := if negated then j.dual else j

theorem Join.decisive_under (j : Join) (negated : Bool) :
    (j.under negated).decisive = (negated ^^ j.decisive) := by
  cases negated with
  | false => exact (Bool.false_xor _).symm
  | true => rw [Bool.true_xor, ← j.decisive_dual]; rfl

namespace Predicate

mutual

/-- The predicate, or its negation, with all negations pushed down to the leaves. -/
def pushed (negated : Bool) : Predicate F → Predicate F
  | .leaf t => if negated then .not (.leaf t) else .leaf t
  | .negation p => pushed (!negated) p
  | .join j ps => .join (j.under negated) (pushedAll negated ps)

/-- The predicates of a list, or their negations, with all negations pushed down to the leaves. -/
def pushedAll (negated : Bool) : List (Predicate F) → List (Predicate F)
  | [] => []
  | p :: ps => pushed negated p :: pushedAll negated ps

end

/-- The predicate with all negations pushed down to the leaves. -/
def negationNormal (p : Predicate F) : Predicate F := p.pushed false

/-- Negations stand on leaves only. -/
inductive IsNegationNormal : Predicate F → Prop
  | leaf (t : Test F) : IsNegationNormal (.leaf t)
  | negatedLeaf (t : Test F) : IsNegationNormal (.negation (.leaf t))
  | join {j : Join} {ps : List (Predicate F)} :
      (∀ p ∈ ps, IsNegationNormal p) → IsNegationNormal (.join j ps)

theorem pushedAll_eq_map (negated : Bool) (ps : List (Predicate F)) :
    pushedAll negated ps = ps.map (pushed negated) := by
  induction ps with
  | nil => rfl
  | cons p ps ih => rw [pushedAll, ih, List.map_cons]

theorem isNegationNormal_pushed (p : Predicate F) :
    ∀ negated, (p.pushed negated).IsNegationNormal := by
  induction p with
  | leaf t =>
      intro negated
      cases negated with
      | false => exact .leaf t
      | true => exact .negatedLeaf t
  | negation p ih => exact fun negated => ih (!negated)
  | join j ps ih =>
      intro negated
      rw [pushed, pushedAll_eq_map]
      refine .join fun q hq => ?_
      obtain ⟨p, hp, rfl⟩ := List.mem_map.mp hq
      exact ih p hp negated

/-- Predicates with negations on leaves only are left as they are. -/
theorem IsNegationNormal.negationNormal_eq {p : Predicate F} (h : p.IsNegationNormal) :
    p.negationNormal = p := by
  induction h with
  | leaf t => rfl
  | negatedLeaf t => rfl
  | @join j ps _ ih =>
      have hrow : ps.map (pushed false) = ps := by
        calc ps.map (pushed false) = ps.map id := List.map_congr_left ih
          _ = ps := List.map_id ps
      rw [negationNormal, pushed, pushedAll_eq_map, hrow]
      rfl

theorem pushed_not (p : Predicate F) (negated : Bool) :
    p.not.pushed negated = p.pushed (!negated) := by
  cases p with
  | leaf t => rfl
  | negation p => rw [pushed, Bool.not_not]; rfl
  | join j ps => rfl

/-- Two negations cancel. -/
theorem negationNormal_not_not (p : Predicate F) :
    p.not.not.negationNormal = p.negationNormal := by
  rw [negationNormal, pushed_not, pushed_not, Bool.not_not, negationNormal]

/-- The negation of a join is the dual join of the negated children. -/
theorem negationNormal_not_joinOf (j : Join) (p q : Predicate F) (rest : List (Predicate F)) :
    (joinOf j p q rest).not.negationNormal =
      joinOf j.dual p.not.negationNormal q.not.negationNormal
        (rest.map fun r => r.not.negationNormal) := by
  simp only [negationNormal, pushed_not]
  rw [joinOf, pushed, pushedAll, pushedAll, pushedAll_eq_map]
  rfl

end Predicate

/-! ## Checking the pushed form -/

namespace Summary

/-- The second summary is clean whenever the first one is, and then its value is that of the first one,
inverted if `negated`. Of values that come with a failure nothing is said. -/
def Turned (negated : Bool) (s t : Summary) : Prop :=
  t.clean = s.clean ∧ (s.clean = true → t.value = (negated ^^ s.value))

theorem clean_andThen_eq_false {s : Summary} (t : Summary) (h : s.clean = false) :
    (s.andThen j t).clean = false := by
  by_cases hd : s.value = j.decisive
  · rw [andThen_of_decisive t hd, h]
  · rw [andThen_of_not_decisive t hd, h, Bool.false_and]

theorem turned_self (s : Summary) : Turned false s s :=
  ⟨rfl, fun _ => (Bool.false_xor _).symm⟩

theorem turned_undecided (j : Join) (negated : Bool) :
    Turned negated (undecided j) (undecided (j.under negated)) := by
  refine ⟨rfl, fun _ => ?_⟩
  show (!(j.under negated).decisive) = (negated ^^ !j.decisive)
  rw [j.decisive_under, Bool.xor_not]

namespace Turned

variable {negated : Bool} {s s' t t' : Summary}

/-- Negating the second summary turns it once more. -/
theorem negate (h : Turned negated s t) : Turned (!negated) s t.negate := by
  refine ⟨h.1, fun hs => ?_⟩
  have ht : t.clean = true := h.1.trans hs
  show (t.clean && !t.value) = _
  rw [ht, Bool.true_and, h.2 hs, Bool.not_xor]

/-- Negating the first summary turns the second one back. -/
theorem of_negate (h : Turned (!negated) s t) : Turned negated s.negate t := by
  refine ⟨h.1, fun hs => ?_⟩
  have hs' : s.clean = true := hs
  show t.value = (negated ^^ (s.clean && !s.value))
  rw [h.2 hs', hs', Bool.true_and, Bool.xor_not, Bool.not_xor]

/-- Scans of turned children stop together, as long as they are clean. -/
theorem andThen (hs : Turned negated s s') (ht : Turned negated t t') :
    Turned negated (s.andThen j t) (s'.andThen (j.under negated) t') := by
  cases hclean : s.clean with
  | false =>
      -- only one of the two scans may stop here, but neither is clean any more
      have hclean' : s'.clean = false := hs.1.trans hclean
      rw [Turned, clean_andThen_eq_false t hclean, clean_andThen_eq_false t' hclean']
      exact ⟨rfl, nofun⟩
  | true =>
      have hvalue : s'.value = (negated ^^ s.value) := hs.2 hclean
      by_cases hd : s.value = j.decisive
      · have hd' : s'.value = (j.under negated).decisive := by
          rw [hvalue, hd, j.decisive_under]
        rw [andThen_of_decisive t hd, andThen_of_decisive t' hd']
        exact hs
      · have hd' : s'.value ≠ (j.under negated).decisive := by
          rw [hvalue, j.decisive_under]
          exact fun h => hd (Bool.xor_right_inj.mp h)
        rw [andThen_of_not_decisive t hd, andThen_of_not_decisive t' hd']
        refine ⟨?_, fun h => ?_⟩
        · show (s'.clean && t'.clean) = (s.clean && t.clean)
          rw [hs.1, ht.1]
        · exact ht.2 (Bool.and_eq_true_iff.mp h).2

end Turned

end Summary

namespace Predicate

theorem turned_join {negated : Bool} (ps : List (Predicate F))
    (hps : ∀ p ∈ ps, (p.summary input).Turned negated ((p.pushed negated).summary input)) :
    ((join j ps).summary input).Turned negated
      ((join (j.under negated) (ps.map (pushed negated))).summary input) := by
  induction ps with
  | nil => exact Summary.turned_undecided j negated
  | cons p ps ih =>
      rw [List.forall_mem_cons] at hps
      rw [List.map_cons, summary_join_cons, summary_join_cons]
      exact hps.1.andThen (ih hps.2)

theorem turned_pushed (p : Predicate F) :
    ∀ negated, (p.summary input).Turned negated ((p.pushed negated).summary input) := by
  induction p with
  | leaf t =>
      intro negated
      cases negated with
      | false => exact Summary.turned_self _
      | true =>
          have hnot : pushed true (leaf t) = negation (leaf t) := rfl
          rw [hnot, summary_negation]
          exact (Summary.turned_self _).negate
  | negation p ih =>
      intro negated
      rw [summary_negation, pushed]
      exact (ih (!negated)).of_negate
  | join j ps ih =>
      intro negated
      rw [pushed, pushedAll_eq_map]
      exact turned_join ps fun p hp => ih p hp negated

/-- **De Morgan's laws hold of clean checks.** The check of a predicate is clean exactly when that of
its negation normal form is, and clean checks agree; and in that form negations stand on leaves only. -/
theorem check_negationNormal (p : Predicate F) (input : Value F) :
    ((p.negationNormal.check input).isClean = true ↔ (p.check input).isClean = true) ∧
      ((p.check input).isClean = true →
        (p.negationNormal.check input).value = (p.check input).value) ∧
      p.negationNormal.IsNegationNormal := by
  have hturned : (p.summary input).Turned false (p.negationNormal.summary input) :=
    turned_pushed p false
  refine ⟨?_, fun hclean => ?_, isNegationNormal_pushed p false⟩
  · have hsame : (p.negationNormal.check input).isClean = (p.check input).isClean := hturned.1
    rw [hsame]
  · exact (hturned.2 hclean).trans (Bool.false_xor _)

/-- A negation that meets another one two levels below, next to a leaf that would refuse the input and
is left out by both scans. -/
theorem check_negationNormal_past_refusing_leaf :
    ((negation (join .all [leaf .existence, negation (join .any [leaf .existence,
        leaf (.lessThan 0)])]) : Predicate .unit).check .absent).isClean = true ∧
      (negation (join .all [leaf .existence, negation (join .any [leaf .existence,
        leaf (.lessThan 0)])]) : Predicate .unit).negationNormal =
        join .any [negation (leaf .existence), join .any [leaf .existence, leaf (.lessThan 0)]] ∧
      ((negation (join .all [leaf .existence, negation (join .any [leaf .existence,
        leaf (.lessThan 0)])]) : Predicate .unit).negationNormal.check .absent).value = true :=
  ⟨rfl, rfl, (check_negationNormal _ .absent).2.1 rfl⟩

/-- On a failed check the values may differ: the leaf that refuses the input decides the conjunction,
and its negation does not decide the disjunction. -/
example : ((negation (join .all [leaf (.lessThan 0), negation (leaf .existence)]) :
      Predicate .unit).check .absent).value = false ∧
    ((negation (join .all [leaf (.lessThan 0), negation (leaf .existence)]) :
      Predicate .unit).negationNormal.check .absent).value = true := ⟨rfl, rfl⟩

end Predicate

end Criteria
