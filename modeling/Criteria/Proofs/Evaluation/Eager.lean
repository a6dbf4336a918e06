/-
# Criteria.Proofs.Evaluation.Eager — stopping early is not seen in the verdict

`eager` is evaluation without an early exit. It evaluates EVERY child of a join, also the ones that a
check never comes to, and only then makes one verdict of theirs (`Join.settle`). The two halves of that
verdict look at different parts of the list: the answer is the conjunction or disjunction of all the
answers, while the failures are those of the children up to and including the first one that decides.

A check gives the same verdict (`check_eq_eager`), failure and all. One join at a time, this says that
the scan is `Join.settle` of the verdicts of all children (`check_join_eq_settle`); the tree induction
around it is then plain.

There is a third way to put a scan, as a loop that adds one child after the other to what it has gathered
so far and breaks off at the one that decides. It comes to the same (`check_join_eq_loop`): a loop that
starts with a scan adds to it what the scan of the remaining children gathers.
-/
import Criteria.Proofs.Evaluation.Classical
import Mathlib.Data.List.Basic

namespace Criteria

variable {F : Foreign} {input : Value F} {j : Join}

/-! ## One verdict of many -/

/-- The failures of several verdicts as one aggregate, in order; none if no verdict failed. -/
def Verdict.bundle (vs : List Verdict) : Option Failure :=
  match vs.filterMap fun v => v.failure with
  | [] => none
  | f :: fs => some (.aggregate (f :: fs))

namespace Join

/-- The verdicts up to and including the first one that decides the join; all of them if none does. -/
def upToDecisive (j : Join) (vs : List Verdict) : List Verdict :=
  vs.take (vs.findIdx (fun v => v.value == j.decisive) + 1)

/-- The verdict of a join, from those of all of its children. -/
def settle (j : Join) (vs : List Verdict) : Verdict :=
  ⟨j.combine (vs.map fun v => v.value), Verdict.bundle (j.upToDecisive vs)⟩

theorem upToDecisive_cons_of_decisive {v : Verdict} (vs : List Verdict)
    (h : v.value = j.decisive) : j.upToDecisive (v :: vs) = [v] := by
  have hidx : (v :: vs).findIdx (fun v => v.value == j.decisive) = 0 := by
    simp [List.findIdx_cons, h]
  rw [upToDecisive, hidx]
  rfl

theorem upToDecisive_cons_of_not_decisive {v : Verdict} (vs : List Verdict)
    (h : v.value ≠ j.decisive) : j.upToDecisive (v :: vs) = v :: j.upToDecisive vs := by
  have hfalse : (v.value == j.decisive) = false := beq_eq_false_iff_ne.mpr h
  have hidx : (v :: vs).findIdx (fun v => v.value == j.decisive) =
      vs.findIdx (fun v => v.value == j.decisive) + 1 := by
    simp [List.findIdx_cons, hfalse]
  rw [upToDecisive, hidx]
  rfl

end Join

/-! ## Gathering from the front -/

namespace Scan

/-- One more child was visited, after those of the scan. If it decides, the loop breaks off. -/
def step (j : Join) (s : Scan) (v : Verdict) : Except Scan Scan :=
  if v.value = j.decisive then .error ⟨s.failures.append? v.failure, true⟩
  else .ok ⟨s.failures.append? v.failure, s.decided⟩

/-- What a loop has gathered in the end, broken off or not. -/
def ended : Except Scan Scan → Scan
  | .error s => s
  | .ok s => s

/-- What two scans gathered, one after the other. -/
def append (s r : Scan) : Scan :=
  ⟨.ofList (s.failures.failures ++ r.failures.failures), s.decided || r.decided⟩

theorem append_start (s : Scan) : s.append start = s := by
  simp [append, start, Aggregate.empty, Aggregate.ofList]

theorem append_visit (s : Scan) (v : Verdict) (r : Scan) :
    s.append (r.visit v) = (s.append ⟨.ofList v.failure.toList, false⟩).append r := by
  simp [append, visit, Aggregate.ofList]

theorem step_of_decisive (s : Scan) {v : Verdict} (h : v.value = j.decisive) :
    s.step j v = .error (s.append (.decide v)) := by
  rw [step, if_pos h, Aggregate.append?_eq_ofList, append, decide, Bool.or_true]
  rfl

theorem step_of_not_decisive (s : Scan) {v : Verdict} (h : v.value ≠ j.decisive) :
    s.step j v = .ok (s.append ⟨.ofList v.failure.toList, false⟩) := by
  rw [step, if_neg h, Aggregate.append?_eq_ofList, append, Bool.or_false]
  rfl

end Scan

namespace Predicate

/-! ## Evaluation without an early exit -/

mutual

/-- The verdict of a predicate when every node of the tree is evaluated. -/
def eager (input : Value F) : Predicate F → Verdict
  | .leaf t =>
    match t.result? input with
    | some b => .clean b
    | none => .failed false .typeMismatch
  | .negation p =>
    match eager input p with
    | ⟨b, none⟩ => .clean (!b)
    | ⟨_, some f⟩ => .failed false f
  | .join j ps => j.settle (eagerAll input ps)

/-- The verdicts of all children of a join. -/
def eagerAll (input : Value F) : List (Predicate F) → List Verdict
  | [] => []
  | p :: ps => eager input p :: eagerAll input ps

end

theorem eagerAll_eq_map (ps : List (Predicate F)) : eagerAll input ps = ps.map (eager input) := by
  induction ps with
  | nil => rfl
  | cons p ps ih => rw [eagerAll, ih, List.map_cons]

/-! ## One join -/

/-- The verdicts of the reached children are the first part of the verdicts of all children. -/
theorem map_check_reached (ps : List (Predicate F)) :
    (reached input j ps).map (fun p => p.check input) =
      j.upToDecisive (ps.map fun p => p.check input) := by
  induction ps with
  | nil => rfl
  | cons p ps ih =>
      rw [List.map_cons]
      by_cases h : (p.check input).value = j.decisive
      · rw [reached_cons_of_decisive ps h, Join.upToDecisive_cons_of_decisive _ h]
        rfl
      · rw [reached_cons_of_not_decisive ps h, Join.upToDecisive_cons_of_not_decisive _ h,
          List.map_cons, ih]

/-- The failures of several checks, one after the other, collapse to the bundle of their verdicts. -/
theorem collapse_flatMap_failure (ps : List (Predicate F)) :
    (Aggregate.ofList (ps.flatMap fun p => (p.check input).failure.toList)).collapse =
      Verdict.bundle (ps.map fun p => p.check input) := by
  have hfailures : (ps.map fun p => p.check input).filterMap (fun v => v.failure) =
      ps.flatMap fun p => (p.check input).failure.toList := by
    rw [List.filterMap_map, List.filterMap_eq_flatMap_toList]
    rfl
  rw [Verdict.bundle, hfailures]
  cases (ps.flatMap fun p => (p.check input).failure.toList) <;> rfl

/-- A check of a join settles the verdicts of ALL of its children. -/
theorem check_join_eq_settle (ps : List (Predicate F)) :
    (join j ps).check input = j.settle (ps.map fun p => p.check input) := by
  -- the answer does not depend on where the scan stopped, the failure does
  have hvalue : ((join j ps).check input).value =
      j.combine ((ps.map fun p => p.check input).map fun v => v.value) := by
    rw [check_join_value, List.map_map]
    rfl
  have hfailure : ((join j ps).check input).failure =
      Verdict.bundle (j.upToDecisive (ps.map fun p => p.check input)) := by
    rw [check_join_failure, collapse_flatMap_failure, map_check_reached]
  calc (join j ps).check input
      = ⟨((join j ps).check input).value, ((join j ps).check input).failure⟩ := rfl
    _ = j.settle (ps.map fun p => p.check input) := by rw [hvalue, hfailure, Join.settle]

/-! ## One join as a loop -/

/-- A loop adds to the scan it starts with what the scan of the children gathers. -/
theorem ended_foldlM_step (s : Scan) (ps : List (Predicate F)) :
    Scan.ended (ps.foldlM (fun s p => s.step j (p.check input)) s) =
      s.append (scan input j ps).value := by
  induction ps generalizing s with
  | nil => exact s.append_start.symm
  | cons p ps ih =>
      rw [List.foldlM_cons]
      by_cases h : (p.check input).value = j.decisive
      · rw [Scan.step_of_decisive s h, scan_cons_of_decisive ps h]
        rfl
      · rw [Scan.step_of_not_decisive s h, scan_cons_of_not_decisive ps h, Scan.append_visit]
        exact ih _

/-- A check of a join is the verdict of a loop over its children. -/
theorem check_join_eq_loop (ps : List (Predicate F)) :
    (join j ps).check input =
      (Scan.ended (ps.foldlM (fun s p => s.step j (p.check input)) .start)).verdict j := by
  rw [ended_foldlM_step]
  rfl

/-! ## The whole tree -/

/-- **A check is an eager evaluation.** Leaving out the children after a deciding one changes neither
the answer nor the failure, at any node of the tree. -/
theorem check_eq_eager (p : Predicate F) (input : Value F) : p.check input = p.eager input := by
  induction p with
  | leaf t =>
      rw [check_leaf]
      unfold eager
      cases t.result? input <;> rfl
  | negation p ih =>
      rw [check_negation, ih, eager, Verdict.negate]
      obtain ⟨b, failure⟩ := p.eager input
      cases failure <;> rfl
  | join j ps ih =>
      have hchildren : ps.map (fun p => p.check input) = eagerAll input ps := by
        rw [eagerAll_eq_map]
        exact List.map_congr_left ih
      rw [check_join_eq_settle, hchildren, eager]

/-- The first leaf refuses the input and the second one decides; the third, which would refuse it as
well, counts for the answer and not for the failure. -/
example : (join .any [leaf (.lessThan 0), leaf .existence, leaf (.beginsWith "a")] :
    Predicate .unit).eager .absent = .failed true (.aggregate [.typeMismatch]) := rfl

end Predicate

end Criteria
