/-
# Criteria.Proofs.Evaluation.Replay — the reported events tell the failure

A check gives a verdict and reports events, and the two are made by one recursion. The events are
enough to get the failure back: read as instructions for a stack of failures, a mismatch puts one on
top and a finished join replaces as many as it counts by their bundle (`Event.replay`). Nothing else
is needed, because a join reports after all of the children it visited and a negation, which hands the
failure of its child on, does not report at all.

The invariant is about the stack, not about the failure: whatever lies on the stack before a check is
still there afterwards, below the failure of the check if there is one (`replay_checkEvents`). The
failures of the children of a join lie there in reverse, the last on top.
-/
import Criteria.Proofs.Evaluation.Reach
import Mathlib.Data.List.Basic

namespace Criteria

variable {F : Foreign} {input : Value F} {j : Join}

/-! ## Events as instructions for a stack -/

namespace Event

/-- The stack of failures after an event: a mismatch puts a failure on top, a finished join takes as
many as it counts and puts their bundle there, unless it counts none. Fails if there are too few. -/
def replay (stack : List Failure) : Event → Option (List Failure)
  | .mismatch _ _ => some (.typeMismatch :: stack)
  | .scanned _ _ _ n =>
    if stack.length < n then none
    else if n = 0 then some stack
    else some (.aggregate (stack.take n).reverse :: stack.drop n)
  | .incomplete _ _ => some stack

/-- Whether the event is that of a finished join. -/
def isScan : Event → Bool
  | .scanned _ _ _ _ => true
  | _ => false

/-- A join that finds the failures it counts on top of the stack, the last one uppermost, puts what
they collapse to in their place. -/
theorem replay_scanned (kind : Kind) (children : Nat) (decided : Bool) (fs stack : List Failure) :
    (scanned kind children decided fs.length).replay (fs.reverse ++ stack) =
      some ((Aggregate.ofList fs).collapse.toList ++ stack) := by
  have hlen : (fs.reverse ++ stack).length = fs.length + stack.length := by
    rw [List.length_append, List.length_reverse]
  have henough : ¬ (fs.reverse ++ stack).length < fs.length := by omega
  rw [replay, if_neg henough]
  cases fs with
  | nil => rfl
  | cons f fs =>
      have htake : ((f :: fs).reverse ++ stack).take (f :: fs).length = (f :: fs).reverse :=
        List.take_left' List.length_reverse
      have hdrop : ((f :: fs).reverse ++ stack).drop (f :: fs).length = stack :=
        List.drop_left' List.length_reverse
      rw [if_neg (by simp), htake, hdrop, List.reverse_reverse]
      rfl

end Event

namespace Predicate

/-! ## The stack invariant -/

/-- Checks that each keep the stack and put their failure on top leave theirs in reverse together. -/
theorem replay_flatMap_checkEvents {ps : List (Predicate F)}
    (hps : ∀ p ∈ ps, ∀ stack, (p.checkEvents input).foldlM Event.replay stack =
      some ((p.check input).failure.toList ++ stack)) (stack : List Failure) :
    (ps.flatMap fun p => p.checkEvents input).foldlM Event.replay stack =
      some ((ps.flatMap fun p => (p.check input).failure.toList).reverse ++ stack) := by
  induction ps generalizing stack with
  | nil => rfl
  | cons p ps ih =>
      rw [List.forall_mem_cons] at hps
      -- one failure or none reads the same from both ends
      have hone : (p.check input).failure.toList.reverse = (p.check input).failure.toList := by
        cases (p.check input).failure <;> rfl
      rw [List.flatMap_cons, List.foldlM_append, hps.1, Option.bind_eq_bind, Option.bind_some,
        ih hps.2, List.flatMap_cons, List.reverse_append, hone, List.append_assoc]

/-- The events of a check leave the stack as it was, with the failure of the check on top. -/
theorem replay_checkEvents (p : Predicate F) (input : Value F) :
    ∀ stack, (p.checkEvents input).foldlM Event.replay stack =
      some ((p.check input).failure.toList ++ stack) := by
  induction p with
  | leaf t =>
      intro stack
      rw [check_leaf, checkEvents_leaf]
      cases t.result? input <;> rfl
  | negation p ih =>
      intro stack
      rw [checkEvents_negation, check_negation_failure]
      exact ih stack
  | join j ps ih =>
      intro stack
      -- the join comes after the reached children and finds their failures on the stack
      have hsub : reached input j ps ⊆ ps := reached_subset ps
      have hreached := replay_flatMap_checkEvents (fun p hp => ih p (hsub hp)) stack
      rw [checkEvents_join, List.foldlM_append, hreached, check_join_failure,
        Option.bind_eq_bind, Option.bind_some, List.foldlM_cons, Event.replay_scanned]
      rfl

/-! ## The finished joins -/

/-- How many of the children that a join visits fail. -/
def failing (input : Value F) (j : Join) (ps : List (Predicate F)) : Nat :=
  (reached input j ps).countP fun p => !(p.check input).isClean

/-- The event that a join reports when it has its verdict; the other nodes have none. -/
def scanEvent? (input : Value F) : Predicate F → Option Event
  | .join j ps =>
    some (.scanned j.kind ps.length (((join j ps).check input).value == j.decisive)
      (failing input j ps))
  | _ => none

theorem length_flatMap_failure (ps : List (Predicate F)) :
    (ps.flatMap fun p => (p.check input).failure.toList).length =
      ps.countP fun p => !(p.check input).isClean := by
  induction ps with
  | nil => rfl
  | cons p ps ih =>
      rw [List.flatMap_cons, List.length_append, ih, List.countP_cons, Nat.add_comm]
      congr 1
      rw [Outcome.isClean]
      cases (p.check input).failure <;> rfl

theorem checkEvents_join_eq_append (ps : List (Predicate F)) :
    (join j ps).checkEvents input =
      ((reached input j ps).flatMap fun p => p.checkEvents input) ++
        ((join j ps).scanEvent? input).toList := by
  rw [checkEvents_join, length_flatMap_failure]
  rfl

/-- The events of finished joins are those of the visited joins, in the order of the visit. -/
theorem filter_isScan_checkEvents (p : Predicate F) (input : Value F) :
    (p.checkEvents input).filter Event.isScan =
      (p.visited input).filterMap (scanEvent? input) := by
  induction p with
  | leaf t =>
      rw [checkEvents_leaf]
      cases t.result? input <;> rfl
  | negation p ih =>
      rw [checkEvents_negation, ih, visited, List.filterMap_append]
      exact (List.append_nil _).symm
  | join j ps ih =>
      have hbelow : ∀ qs : List (Predicate F), qs ⊆ ps →
          (qs.flatMap fun q => q.checkEvents input).filter Event.isScan =
            (qs.flatMap (visited input)).filterMap (scanEvent? input) := by
        intro qs hqs
        rw [List.filter_flatMap, List.filterMap_flatMap]
        exact List.flatMap_congr fun q hq => ih q (hqs hq)
      rw [checkEvents_join_eq_append, List.filter_append, hbelow _ (reached_subset ps), visited,
        visitedAll_eq_flatMap, List.filterMap_append]
      rfl

/-- **The events of a check tell its failure.** Replayed on an empty stack they leave the failure of
the verdict and nothing else. Every visited join reports once, and the report of a join comes last and
says its kind, how many children it has and whether its verdict is the decisive one. -/
theorem events_tell_failure (p : Predicate F) (input : Value F) :
    (p.checkEvents input).foldlM Event.replay [] = some (p.check input).failure.toList ∧
      (p.checkEvents input).filter Event.isScan =
        (p.visited input).filterMap (scanEvent? input) ∧
      ∀ (j : Join) (ps : List (Predicate F)), ((join j ps).checkEvents input).getLast? =
        some (.scanned (join j ps).kind (join j ps).components.length
          (((join j ps).check input).value == j.decisive) (failing input j ps)) := by
  refine ⟨?_, filter_isScan_checkEvents p input, fun j ps => ?_⟩
  · rw [replay_checkEvents, List.append_nil]
  · rw [checkEvents_join_eq_append, List.getLast?_append]
    rfl

end Predicate

end Criteria
