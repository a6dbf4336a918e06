/-
# Criteria.Proofs.Session — what a session can have on its stack

What a step puts on the stack was pushed or is made of what was there, and there are few ways to make it
(`MayLeave`). So a session makes no predicate that could not be built without it: if its stack begins with
built predicates and only such are pushed, then each step leaves built ones (`built_run`), and there is
nothing else on any stack that it comes to (`built_runAll`).

A step that is not carried out leaves the stack as it was (`run_eq_self`).
-/
import Criteria.Proofs.Predicate.NormalForm
import Criteria.Session

namespace Criteria

variable {F : Foreign}

/-- A predicate that the step brings along is built. -/
def Step.BringsBuilt : Step F → Prop
  | .push p => p.Built
  | _ => True

namespace Session

variable {stack : List (Predicate F)} {step : Step F} {steps : List (Step F)} {q : Predicate F}

theorem exists_of_join?_eq_some {j : Join} {ps : List (Predicate F)}
    (h : join? j ps = some q) : ∃ p r rest, q = .joinOf j p r rest ∧ ps = p :: r :: rest := by
  unfold join? at h
  split at h
  · exact ⟨_, _, _, (Option.some.inj h).symm, rfl⟩
  · cases h

/-- A predicate that a step may leave on a stack: it was there before, was pushed, or is the negation, a join
or a component of what was there. -/
inductive MayLeave (stack : List (Predicate F)) (step : Step F) : Predicate F → Prop
  | kept {p : Predicate F} : p ∈ stack → MayLeave stack step p
  | pushed {p : Predicate F} : step = .push p → MayLeave stack step p
  | negated {p : Predicate F} : p ∈ stack → MayLeave stack step p.not
  | joined (j : Join) {p r : Predicate F} {rest : List (Predicate F)} :
      (∀ c ∈ p :: r :: rest, c ∈ stack) → MayLeave stack step (.joinOf j p r rest)
  | component {p c : Predicate F} : p ∈ stack → c ∈ p.components → MayLeave stack step c

theorem mayLeave_of_mem_run (hq : q ∈ (run stack step).1) : MayLeave stack step q := by
  cases step with
  | push p =>
      obtain rfl | hq := List.mem_cons.mp hq
      · exact .pushed rfl
      · exact .kept hq
  | duplicate | drop | swap | compare | check | display =>
      match stack with
      | [] | [_] | _ :: _ :: _ => exact .kept (by grind [run])
  | negate =>
      match stack with
      | [] => exact .kept hq
      | p :: rest =>
          obtain rfl | hq := List.mem_cons.mp hq
          · exact .negated List.mem_cons_self
          · exact .kept (List.mem_cons_of_mem _ hq)
  | joinTwo j =>
      match stack with
      | [] | [_] => exact .kept hq
      | r :: p :: rest =>
          obtain rfl | hq := List.mem_cons.mp hq
          · exact .joined j (by simp)
          · exact .kept (List.mem_cons_of_mem _ (List.mem_cons_of_mem _ hq))
  | joinMany j count =>
      rw [run] at hq
      split at hq
      · exact .kept hq
      · split at hq
        · rename_i p hp
          obtain rfl | hq := List.mem_cons.mp hq
          · obtain ⟨p, r, rest, rfl, htaken⟩ := exists_of_join?_eq_some hp
            refine .joined j fun c hc => ?_
            rw [← htaken, List.mem_reverse] at hc
            exact List.mem_of_mem_take hc
          · exact .kept (List.mem_of_mem_drop hq)
        · exact .kept hq
  | component index =>
      match stack with
      | [] => exact .kept hq
      | p :: rest =>
          rw [run] at hq
          split at hq
          · rename_i c hc
            obtain rfl | hq := List.mem_cons.mp hq
            · exact .component List.mem_cons_self (List.mem_of_getElem? hc)
            · exact .kept hq
          · exact .kept hq

/-- A step leaves built predicates on a stack of such. -/
theorem built_run (hstack : ∀ p ∈ stack, p.Built) (hstep : step.BringsBuilt) :
    ∀ p ∈ (run stack step).1, p.Built := by
  intro q hq
  cases mayLeave_of_mem_run hq with
  | kept hq => exact hstack q hq
  | pushed hpush =>
      rw [hpush] at hstep
      exact hstep
  | negated hp => exact (hstack _ hp).not
  | joined j hparts =>
      obtain ⟨hp, hparts⟩ := List.forall_mem_cons.mp hparts
      obtain ⟨hr, hrest⟩ := List.forall_mem_cons.mp hparts
      exact .joinOf j (hstack _ hp) (hstack _ hr) fun c hc => hstack c (hrest c hc)
  | component hp hq => exact (hstack _ hp).component hq

/-- Only built predicates are on any stack that a session comes to. -/
theorem built_runAll (hstack : ∀ p ∈ stack, p.Built) (hsteps : ∀ step ∈ steps, step.BringsBuilt) :
    ∀ state ∈ runAll stack steps, ∀ p ∈ state.1, p.Built := by
  induction steps generalizing stack with
  | nil => exact nofun
  | cons step steps ih =>
      obtain ⟨hstep, hsteps⟩ := List.forall_mem_cons.mp hsteps
      have hnext := built_run hstack hstep
      rw [runAll]
      exact List.forall_mem_cons.mpr ⟨hnext, ih hnext hsteps⟩

/-- A step that is not carried out, for want of operands or of a component, leaves the stack as it was. -/
theorem run_eq_self (h : (run stack step).2 = .underflow ∨ (run stack step).2 = .noComponent) :
    (run stack step).1 = stack := by
  revert h
  fun_cases run stack step <;> simp

end Session

end Criteria
