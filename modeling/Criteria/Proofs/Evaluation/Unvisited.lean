/-
# Criteria.Proofs.Evaluation.Unvisited — what a check does not visit cannot be observed

A check leaves a position out if, somewhere above it, a join was decided by an earlier child
(`not_visitedAt_iff`). Whatever stands there, the check gives the same verdict, with the same failure,
and reports the same events (`check_replaceAt_of_not_visitedAt`); even the number of children that the
join reports is the same, because it counts children and not what is in them.

Two facts make up the proof. A scan that is decided reads no further, so that the join evaluates alike
whatever is put behind the deciding child. And evaluation is a congruence: where a predicate is replaced
by one that evaluates alike, the whole evaluates alike (`evaluate_replaceAt_eq`).
-/
import Criteria.Proofs.Evaluation.Visit

namespace Criteria.Predicate

variable {F : Foreign} {input : Value F} {p q r : Predicate F} {path : List Nat}

/-! ## Positions that a check leaves out -/

/-- Some join above a position was decided by a child before the one that leads to the position. -/
def DecidedAbove (input : Value F) (p : Predicate F) (path : List Nat) : Prop :=
  ∃ above i below j ps, path = above ++ i :: below ∧ p.at? above = some (.join j ps) ∧
    ∃ c ∈ ps.take i, (c.check input).value = j.decisive

theorem visits_of_visits_append {above below : List Nat} (h : p.at? above = some q)
    (hvisits : p.visits input (above ++ below) = true) : q.visits input below = true := by
  induction above generalizing p with
  | nil =>
      obtain rfl : p = q := Option.some.inj h
      exact hvisits
  | cons i above ih =>
      obtain ⟨c, hc, hcq⟩ := at?_cons_eq_some_iff.mp h
      rw [List.cons_append, visits, hc, Option.any_some, Bool.and_eq_true] at hvisits
      exact ih hcq hvisits.2

theorem decidedAbove_of_not_visits (h : p.at? path = some q)
    (hvisits : ¬ p.visits input path = true) : p.DecidedAbove input path := by
  -- down the path, as far as children are visited; the first that is not shows the join
  induction path generalizing p with
  | nil => exact absurd rfl hvisits
  | cons i path ih =>
      obtain ⟨c, hc, hcq⟩ := at?_cons_eq_some_iff.mp h
      by_cases hopens : p.opens input i = true
      · rw [visits_cons hopens hc] at hvisits
        obtain ⟨above, k, below, j, ps, rfl, hjoin, hdecided⟩ := ih hcq hvisits
        exact ⟨i :: above, k, below, j, ps, rfl, (at?_cons hc above).trans hjoin, hdecided⟩
      · cases p with
        | leaf t => exact absurd rfl hopens
        -- a negation visits its child whatever the input is
        | negation p => exact absurd rfl hopens
        | join j ps =>
            rw [opens_join_iff] at hopens
            push Not at hopens
            exact ⟨[], i, path, j, ps, rfl, rfl, hopens⟩

/-- A position of the tree is left out exactly if some join above it was decided before. -/
theorem not_visitedAt_iff (h : p.at? path = some q) :
    ¬ p.VisitedAt input path ↔ p.DecidedAbove input path := by
  rw [← visits_iff]
  constructor
  · exact decidedAbove_of_not_visits h
  · rintro ⟨above, i, below, j, ps, rfl, hjoin, c, hc, hdecisive⟩ hvisits
    have hbelow := visits_of_visits_append hjoin hvisits
    rw [visits, Bool.and_eq_true, opens_join_iff] at hbelow
    exact hbelow.1 c hc hdecisive

/-! ## Replacing predicates -/

/-- A predicate is evaluated alike if a component is replaced by one that is evaluated alike. -/
theorem evaluate_setComponent_eq {c d : Predicate F} {i : Nat} (hc : p.components[i]? = some c)
    (h : d.evaluate input = c.evaluate input) :
    (p.setComponent i d).evaluate input = p.evaluate input := by
  cases p with
  | leaf t => rfl
  | negation p =>
      cases i with
      | zero =>
          obtain rfl : p = c := Option.some.inj hc
          show (negation d).evaluate input = _
          rw [evaluate, evaluate, h]
      | succ i => rfl
  | join j ps =>
      exact evaluate_join_eq_of_scan_eq List.length_set (scan_set_of_evaluate_eq hc h)

/-- A predicate is evaluated alike if what is at a position is replaced by what is evaluated alike. -/
theorem evaluate_replaceAt_eq (hq : p.at? path = some q)
    (h : r.evaluate input = q.evaluate input) :
    (p.replaceAt path r).evaluate input = p.evaluate input := by
  induction path generalizing p with
  | nil =>
      obtain rfl : p = q := Option.some.inj hq
      exact h
  | cons i path ih =>
      obtain ⟨c, hc, hcq⟩ := at?_cons_eq_some_iff.mp hq
      rw [replaceAt_cons hc, evaluate_setComponent_eq hc (ih hcq)]

/-- A join is evaluated alike whatever is put in a child behind one that decides. -/
theorem evaluate_replaceAt_of_decisive {j : Join} {ps : List (Predicate F)} {i : Nat}
    (h : ∃ c ∈ ps.take i, (c.check input).value = j.decisive) (below : List Nat)
    (r : Predicate F) :
    ((join j ps).replaceAt (i :: below) r).evaluate input = (join j ps).evaluate input := by
  rw [replaceAt]
  cases (join j ps).components[i]? with
  | none => rfl
  -- the event of a scan counts the children, and a replaced child is still one
  | some c => exact evaluate_join_eq_of_scan_eq List.length_set (scan_set_of_decisive _ h)

theorem evaluate_replaceAt_of_decidedAbove (h : p.DecidedAbove input path) (r : Predicate F) :
    (p.replaceAt path r).evaluate input = p.evaluate input := by
  obtain ⟨above, i, below, j, ps, rfl, hjoin, hdecided⟩ := h
  rw [replaceAt_append hjoin]
  exact evaluate_replaceAt_eq hjoin (evaluate_replaceAt_of_decisive hdecided below r)

/-- **What is not visited cannot be observed.** A position that a check does not visit is one below a
join that was decided before. Replacing what is there by any predicate changes neither the verdict, its
failure included, nor the reported events. -/
theorem check_replaceAt_of_not_visitedAt (p q r : Predicate F) (input : Value F)
    (path : List Nat) (hq : p.at? path = some q) (h : ¬ p.VisitedAt input path) :
    p.DecidedAbove input path ∧ (p.replaceAt path r).at? path = some r ∧
      (p.replaceAt path r).check input = p.check input ∧
      (p.replaceAt path r).checkEvents input = p.checkEvents input := by
  have hdecided : p.DecidedAbove input path := (not_visitedAt_iff hq).mp h
  have hsame : (p.replaceAt path r).evaluate input = p.evaluate input :=
    evaluate_replaceAt_of_decidedAbove hdecided r
  exact ⟨hdecided, at?_replaceAt hq r, congrArg Traced.value hsame, congrArg Traced.events hsame⟩

/-- A leaf two levels below a disjunction that another child decided before, replaced by a conjunction
that refuses the input and would report. -/
theorem check_replaceAt_of_not_visitedAt_below_disjunction :
    ((join .any [leaf (.lessThan 0), leaf .existence, negation (leaf (.contains "a"))] :
          Predicate .unit).replaceAt [2, 0] (join .all [leaf (.lessThan 1), leaf .existence])) =
        join .any [leaf (.lessThan 0), leaf .existence,
          negation (join .all [leaf (.lessThan 1), leaf .existence])] ∧
      (join .any [leaf (.lessThan 0), leaf .existence,
          negation (join .all [leaf (.lessThan 1), leaf .existence])] :
          Predicate .unit).checkEvents .absent =
        [.mismatch .lessThan "absent", .scanned .disjunction 3 true 1] :=
  ⟨rfl, (check_replaceAt_of_not_visitedAt
    (join .any [leaf (.lessThan 0), leaf .existence, negation (leaf (.contains "a"))])
    (leaf (.contains "a")) (join .all [leaf (.lessThan 1), leaf .existence]) .absent [2, 0] rfl
    (by decide)).2.2.2.trans rfl⟩

end Criteria.Predicate
