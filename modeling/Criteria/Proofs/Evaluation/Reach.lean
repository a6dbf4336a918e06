/-
# Criteria.Proofs.Evaluation.Reach — which children a join visits, and what it makes of them

The evaluator gives verdict and events at once and stops a join in the middle of its children. This
module takes the two apart: `reached` is the part of the children that a check comes to, up to and
including the first one that decides, and what a check answers and reports is said by it, node by
node. Nothing after this module unfolds the evaluator. `visited` follows the reached children all the
way down.

The verdict of a join does not depend on where the scan stopped: it is decisive exactly when SOME
child, visited or not, has the decisive verdict (`check_join_value_eq_decisive_iff`). The failure does
depend on it: it bundles the failures of the reached children and of no other.
-/
import Criteria.Evaluation.Check

namespace Criteria.Predicate

variable {F : Foreign} {input : Value F} {j : Join}

/-! ## A check, constructor by constructor -/

theorem check_leaf (t : Test F) (input : Value F) :
    (leaf t).check input =
      match t.result? input with
      | some b => .clean b
      | none => .failed false .typeMismatch := by
  simp only [check, evaluate, Test.evaluate]
  cases t.result? input <;> rfl

theorem check_negation (p : Predicate F) (input : Value F) :
    (negation p).check input = (p.check input).negate := rfl

theorem check_negation_failure (p : Predicate F) (input : Value F) :
    ((negation p).check input).failure = (p.check input).failure :=
  (p.check input).negate_failure

theorem checkEvents_leaf (t : Test F) (input : Value F) :
    (leaf t).checkEvents input =
      match t.result? input with
      | some _ => []
      | none => [.mismatch t.kind input.typeName] := by
  simp only [checkEvents, evaluate, Test.evaluate]
  cases t.result? input <;> rfl

theorem checkEvents_negation (p : Predicate F) (input : Value F) :
    (negation p).checkEvents input = p.checkEvents input := rfl

/-! ## The reached children -/

/-- The children of a join that a check visits: those up to and including the first one whose verdict
decides the join, and all of them if there is none. -/
def reached (input : Value F) (j : Join) : List (Predicate F) → List (Predicate F)
  | [] => []
  | p :: ps => p :: if (p.check input).value = j.decisive then [] else reached input j ps

theorem reached_cons_of_decisive {p : Predicate F} (ps : List (Predicate F))
    (h : (p.check input).value = j.decisive) : reached input j (p :: ps) = [p] := by
  rw [reached, if_pos h]

theorem reached_cons_of_not_decisive {p : Predicate F} (ps : List (Predicate F))
    (h : (p.check input).value ≠ j.decisive) :
    reached input j (p :: ps) = p :: reached input j ps := by
  rw [reached, if_neg h]

theorem reached_subset (ps : List (Predicate F)) : reached input j ps ⊆ ps := by
  induction ps with
  | nil => exact List.Subset.refl _
  | cons p ps ih =>
      by_cases h : (p.check input).value = j.decisive
      · rw [reached_cons_of_decisive ps h]
        simp
      · rw [reached_cons_of_not_decisive ps h]
        exact List.cons_subset_cons p ih

/-- A join without a deciding child visits all of its children. -/
theorem reached_eq_self {ps : List (Predicate F)}
    (h : ∀ p ∈ ps, (p.check input).value ≠ j.decisive) : reached input j ps = ps := by
  induction ps with
  | nil => rfl
  | cons p ps ih =>
      rw [List.forall_mem_cons] at h
      rw [reached_cons_of_not_decisive ps h.1, ih h.2]

/-- A join with a deciding child visits a deciding child. -/
theorem exists_decisive_mem_reached {ps : List (Predicate F)}
    (h : ∃ p ∈ ps, (p.check input).value = j.decisive) :
    ∃ p ∈ reached input j ps, (p.check input).value = j.decisive := by
  induction ps with
  | nil => simp at h
  | cons p ps ih =>
      by_cases hp : (p.check input).value = j.decisive
      · exact ⟨p, by simp [reached_cons_of_decisive ps hp], hp⟩
      · have hps : ∃ q ∈ ps, (q.check input).value = j.decisive := by simpa [hp] using h
        obtain ⟨q, hq, hd⟩ := ih hps
        exact ⟨q, by simp [reached_cons_of_not_decisive ps hp, hq], hd⟩

/-! ## The visited nodes -/

mutual

/-- The nodes that a check visits, each after those below it: the root, the child of a visited
negation and the reached children of a visited join. -/
def visited (input : Value F) : Predicate F → List (Predicate F)
  | .leaf t => [.leaf t]
  | .negation p => visited input p ++ [.negation p]
  | .join j ps => visitedAll input j ps ++ [.join j ps]

/-- The nodes that a check visits in the children of a join. -/
def visitedAll (input : Value F) (j : Join) : List (Predicate F) → List (Predicate F)
  | [] => []
  | p :: ps =>
    visited input p ++ if (p.check input).value = j.decisive then [] else visitedAll input j ps

end

theorem visitedAll_eq_flatMap (ps : List (Predicate F)) :
    visitedAll input j ps = (reached input j ps).flatMap (visited input) := by
  induction ps with
  | nil => rfl
  | cons p ps ih =>
      rw [visitedAll, reached, List.flatMap_cons]
      by_cases h : (p.check input).value = j.decisive
      · rw [if_pos h, if_pos h, List.flatMap_nil]
      · rw [if_neg h, if_neg h, ih]

/-! ## What a scan gathers -/

theorem scan_cons_of_decisive {p : Predicate F} (ps : List (Predicate F))
    (h : (p.check input).value = j.decisive) :
    scan input j (p :: ps) = ⟨.decide (p.check input), p.checkEvents input⟩ := by
  have h' : (p.evaluate input).value.value = j.decisive := h
  simp [scan, Traced.bind, h', check, checkEvents, Traced.pure]

theorem scan_cons_of_not_decisive {p : Predicate F} (ps : List (Predicate F))
    (h : (p.check input).value ≠ j.decisive) :
    scan input j (p :: ps) =
      ⟨(scan input j ps).value.visit (p.check input),
        p.checkEvents input ++ (scan input j ps).events⟩ := by
  have h' : (p.evaluate input).value.value ≠ j.decisive := h
  simp [scan, Traced.bind, h', check, checkEvents, Traced.map]

/-- A scan is decided exactly when some child decides, visited or not. -/
theorem scan_decided_iff (ps : List (Predicate F)) :
    (scan input j ps).value.decided = true ↔ ∃ p ∈ ps, (p.check input).value = j.decisive := by
  induction ps with
  | nil => simp [scan, Scan.start]
  | cons p ps ih =>
      by_cases h : (p.check input).value = j.decisive
      · simp [scan_cons_of_decisive ps h, Scan.decide, h]
      · simp [scan_cons_of_not_decisive ps h, Scan.visit, h, ih]

/-- A scan gathers the failures of the reached children, in order. -/
theorem scan_failures (ps : List (Predicate F)) :
    (scan input j ps).value.failures =
      .ofList ((reached input j ps).flatMap fun p => (p.check input).failure.toList) := by
  induction ps with
  | nil => rfl
  | cons p ps ih =>
      by_cases h : (p.check input).value = j.decisive
      · simp [scan_cons_of_decisive ps h, reached_cons_of_decisive ps h, Scan.decide]
      · rw [scan_cons_of_not_decisive ps h, reached_cons_of_not_decisive ps h]
        simp [Scan.visit, ih, Aggregate.ofList]

/-- A scan reports what the checks of the reached children report, in order. -/
theorem scan_events (ps : List (Predicate F)) :
    (scan input j ps).events = (reached input j ps).flatMap fun p => p.checkEvents input := by
  induction ps with
  | nil => rfl
  | cons p ps ih =>
      by_cases h : (p.check input).value = j.decisive
      · simp [scan_cons_of_decisive ps h, reached_cons_of_decisive ps h]
      · simp [scan_cons_of_not_decisive ps h, reached_cons_of_not_decisive ps h, ih]

/-- A scan sees of a child what evaluating it gives. -/
theorem scan_set_of_evaluate_eq {ps : List (Predicate F)} {c d : Predicate F} {i : Nat}
    (hc : ps[i]? = some c) (h : d.evaluate input = c.evaluate input) :
    scan input j (ps.set i d) = scan input j ps := by
  induction ps generalizing i with
  | nil => rfl
  | cons p ps ih =>
      cases i with
      | zero =>
          obtain rfl : p = c := Option.some.inj hc
          rw [List.set_cons_zero, scan, scan, h]
      | succ i => rw [List.set_cons_succ, scan, scan, ih hc]

/-- A scan sees nothing of a child behind one that decides. -/
theorem scan_set_of_decisive {ps : List (Predicate F)} {i : Nat} (d : Predicate F)
    (h : ∃ p ∈ ps.take i, (p.check input).value = j.decisive) :
    scan input j (ps.set i d) = scan input j ps := by
  induction ps generalizing i with
  | nil => rfl
  | cons p ps ih =>
      cases i with
      | zero => simp at h
      | succ i =>
          rw [List.set_cons_succ]
          by_cases hp : (p.check input).value = j.decisive
          · rw [scan_cons_of_decisive _ hp, scan_cons_of_decisive _ hp]
          · have hps : ∃ q ∈ ps.take i, (q.check input).value = j.decisive := by
              simpa [hp] using h
            rw [scan_cons_of_not_decisive _ hp, scan_cons_of_not_decisive _ hp, ih hps]

/-- Joins of as many children are evaluated alike if their children are scanned alike. -/
theorem evaluate_join_eq_of_scan_eq {ps qs : List (Predicate F)} (hlen : qs.length = ps.length)
    (hscan : scan input j qs = scan input j ps) :
    (join j qs).evaluate input = (join j ps).evaluate input := by
  rw [evaluate, evaluate, hlen, hscan]

/-! ## The verdict, the failure and the events of a join -/

/-- A join has the decisive verdict exactly when some child has it, visited or not. -/
theorem check_join_value_eq_decisive_iff (ps : List (Predicate F)) :
    ((join j ps).check input).value = j.decisive ↔
      ∃ p ∈ ps, (p.check input).value = j.decisive := by
  rw [← scan_decided_iff]
  show (if (scan input j ps).value.decided then j.decisive else !j.decisive) = j.decisive ↔ _
  cases (scan input j ps).value.decided <;> simp

/-- The failure of a join bundles the failures of the reached children. -/
theorem check_join_failure (ps : List (Predicate F)) :
    ((join j ps).check input).failure =
      (Aggregate.ofList
        ((reached input j ps).flatMap fun p => (p.check input).failure.toList)).collapse :=
  congrArg Aggregate.collapse (scan_failures ps)

/-- A join is clean exactly when every reached child is. -/
theorem check_join_isClean_iff (ps : List (Predicate F)) :
    ((join j ps).check input).isClean = true ↔
      ∀ p ∈ reached input j ps, (p.check input).isClean = true := by
  simp [check_join_failure, Aggregate.collapse_eq_none_iff, Aggregate.ofList]

/-- The events of a join are those of the reached children and one of its own, which counts all the
children and the failures among the reached ones. -/
theorem checkEvents_join (ps : List (Predicate F)) :
    (join j ps).checkEvents input =
      ((reached input j ps).flatMap fun p => p.checkEvents input) ++
        [.scanned j.kind ps.length (((join j ps).check input).value == j.decisive)
          ((reached input j ps).flatMap fun p => (p.check input).failure.toList).length] := by
  have hd : (scan input j ps).value.decided =
      (((join j ps).check input).value == j.decisive) := by
    rw [Bool.eq_iff_iff, scan_decided_iff, beq_iff_eq, check_join_value_eq_decisive_iff]
  have hn : (scan input j ps).value.failures.size =
      ((reached input j ps).flatMap fun p => (p.check input).failure.toList).length := by
    rw [scan_failures]
    rfl
  rw [← hd, ← hn, ← scan_events]
  rfl

end Criteria.Predicate
