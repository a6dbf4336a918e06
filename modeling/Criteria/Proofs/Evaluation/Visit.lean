/-
# Criteria.Proofs.Evaluation.Visit — the positions that a check visits

A check visits the root, goes on to the child of a negation, and in a join goes from child to child as
long as none decides. `VisitedAt` says so of positions, from the root down: a position is visited if the
one above it is and the check comes to the child in question. `visits` decides the same from the top of
the path, where the rest of it is a position in a child (`visits_iff`); that is the form for inductions
over the tree, the other one the form to read. The nodes at these positions are those of the list `visited`
(`mem_visited_iff`), which has them in the order in which their checks end.
-/
import Criteria.Proofs.Evaluation.Reach
import Criteria.Proofs.Predicate.Position
import Mathlib.Data.List.Induction

namespace Criteria.Predicate

variable {F : Foreign} {input : Value F} {j : Join}

/-- The check of a predicate visits the node at a position: it is the root, the child of a visited
negation, or a child of a visited join none of whose earlier siblings decides the join. -/
inductive VisitedAt (input : Value F) (p : Predicate F) : List Nat → Prop
  | root : VisitedAt input p []
  | negation {path : List Nat} {q : Predicate F} :
      VisitedAt input p path → p.at? path = some (.negation q) → VisitedAt input p (path ++ [0])
  | join {path : List Nat} {j : Join} {ps : List (Predicate F)} {i : Nat} :
      VisitedAt input p path → p.at? path = some (.join j ps) → i < ps.length →
      (∀ q ∈ ps.take i, (q.check input).value ≠ j.decisive) → VisitedAt input p (path ++ [i])

/-- Whether a check that visits a node comes to its child with the given number, if there is one. -/
def opens (input : Value F) (i : Nat) : Predicate F → Bool
  | .join j ps => (ps.take i).all fun q => (q.check input).value != j.decisive
  | _ => true

/-- Whether the check of a predicate visits the node at a position. -/
def visits (input : Value F) (p : Predicate F) : List Nat → Bool
  | [] => true
  | i :: path => p.opens input i && p.components[i]?.any fun q => q.visits input path

theorem opens_join_iff (i : Nat) (ps : List (Predicate F)) :
    (join j ps).opens input i = true ↔ ∀ q ∈ ps.take i, (q.check input).value ≠ j.decisive := by
  simp [opens]

theorem visits_cons {p q : Predicate F} {i : Nat} (hopens : p.opens input i = true)
    (h : p.components[i]? = some q) (path : List Nat) :
    p.visits input (i :: path) = q.visits input path := by
  rw [visits, hopens, h, Option.any_some, Bool.true_and]

/-- A position is visited if the one above it is and the check comes to the child. -/
theorem visits_append_singleton_iff (p : Predicate F) (path : List Nat) (i : Nat) :
    p.visits input (path ++ [i]) = true ↔
      p.visits input path = true ∧
        ∃ q, p.at? path = some q ∧ q.opens input i = true ∧ i < q.components.length := by
  induction path generalizing p with
  | nil =>
      by_cases hlen : i < p.components.length
      · simp [visits, at?, hlen]
      · simp [visits, at?, hlen]
  | cons k path ih =>
      rw [List.cons_append, visits, visits, at?]
      cases p.components[k]? with
      | none => simp
      | some q => simp [ih, and_assoc]

/-- The two ways of saying which positions a check visits agree. -/
theorem visits_iff (p : Predicate F) (path : List Nat) :
    p.visits input path = true ↔ p.VisitedAt input path := by
  constructor
  · intro h
    -- from the end of the path, where the rules of `VisitedAt` extend it
    induction path using List.reverseRecOn with
    | nil => exact .root
    | append_singleton path i ih =>
        obtain ⟨habove, q, hq, hopens, hlen⟩ := (visits_append_singleton_iff p path i).mp h
        cases q with
        | leaf t => exact absurd hlen (Nat.not_lt_zero i)
        | negation r =>
            obtain rfl : i = 0 := Nat.lt_one_iff.mp hlen
            exact .negation (ih habove) hq
        | join j ps => exact .join (ih habove) hq hlen ((opens_join_iff i ps).mp hopens)
  · intro h
    induction h with
    | root => rfl
    | negation _ hq ih =>
        exact (visits_append_singleton_iff p _ 0).mpr ⟨ih, _, hq, rfl, Nat.zero_lt_one⟩
    | join _ hq hlen hfirst ih =>
        exact (visits_append_singleton_iff p _ _).mpr
          ⟨ih, _, hq, (opens_join_iff _ _).mpr hfirst, hlen⟩

instance (input : Value F) (p : Predicate F) (path : List Nat) :
    Decidable (p.VisitedAt input path) := decidable_of_iff _ (visits_iff p path)

/-! ## The nodes at visited positions -/

theorem mem_reached_iff {ps : List (Predicate F)} {q : Predicate F} :
    q ∈ reached input j ps ↔ ∃ i, ps[i]? = some q ∧ (join j ps).opens input i = true := by
  simp only [opens_join_iff]
  induction ps with
  | nil => simp [reached]
  | cons p ps ih =>
      by_cases h : (p.check input).value = j.decisive
      · rw [reached_cons_of_decisive ps h, List.mem_singleton]
        constructor
        · rintro rfl
          exact ⟨0, rfl, by simp⟩
        · rintro ⟨i, hq, hfirst⟩
          cases i with
          | zero => exact (Option.some.inj hq).symm
          | succ i => exact absurd h (hfirst p List.mem_cons_self)
      · rw [reached_cons_of_not_decisive ps h, List.mem_cons, ih]
        constructor
        · rintro (rfl | ⟨i, hq, hfirst⟩)
          · exact ⟨0, rfl, by simp⟩
          · exact ⟨i + 1, hq, List.forall_mem_cons.mpr ⟨h, hfirst⟩⟩
        · rintro ⟨i, hq, hfirst⟩
          cases i with
          | zero => exact Or.inl (Option.some.inj hq).symm
          | succ i => exact Or.inr ⟨i, hq, (List.forall_mem_cons.mp hfirst).2⟩

/-- A check visits the root and, in each child that it comes to, what a check of the child visits. -/
theorem mem_visited_iff_root_or_child (p q : Predicate F) :
    q ∈ p.visited input ↔
      q = p ∨ ∃ i c, p.components[i]? = some c ∧ p.opens input i = true ∧ q ∈ c.visited input := by
  cases p with
  | leaf t => simp [visited, components]
  | negation p =>
      rw [visited, List.mem_append, List.mem_singleton, or_comm]
      refine or_congr_right ⟨fun h => ⟨0, p, rfl, rfl, h⟩, ?_⟩
      rintro ⟨i, c, hc, _, h⟩
      obtain rfl : c = p := List.mem_singleton.mp (List.mem_of_getElem? hc)
      exact h
  | join j ps =>
      rw [visited, visitedAll_eq_flatMap, List.mem_append, List.mem_singleton, or_comm,
        List.mem_flatMap]
      refine or_congr_right ?_
      constructor
      · rintro ⟨c, hc, h⟩
        obtain ⟨i, hi, hopens⟩ := mem_reached_iff.mp hc
        exact ⟨i, c, hi, hopens, h⟩
      · rintro ⟨i, c, hi, hopens, h⟩
        exact ⟨c, mem_reached_iff.mpr ⟨i, hi, hopens⟩, h⟩

theorem exists_visits_of_mem_visited {p q : Predicate F}
    (ih : ∀ c ∈ p.components, q ∈ c.visited input →
      ∃ path, c.visits input path = true ∧ c.at? path = some q)
    (h : q ∈ p.visited input) : ∃ path, p.visits input path = true ∧ p.at? path = some q := by
  rcases (mem_visited_iff_root_or_child p q).mp h with rfl | ⟨i, c, hc, hopens, hqc⟩
  · exact ⟨[], rfl, rfl⟩
  · obtain ⟨path, hvisits, hq⟩ := ih c (List.mem_of_getElem? hc) hqc
    exact ⟨i :: path, (visits_cons hopens hc path).trans hvisits, (at?_cons hc path).trans hq⟩

/-- The list of visited nodes holds what is at the visited positions, and nothing else. -/
theorem mem_visited_iff (p q : Predicate F) :
    q ∈ p.visited input ↔ ∃ path, p.VisitedAt input path ∧ p.at? path = some q := by
  simp only [← visits_iff]
  constructor
  · intro h
    induction p with
    | leaf t => exact exists_visits_of_mem_visited nofun h
    | negation p ih =>
        refine exists_visits_of_mem_visited (fun c hc => ?_) h
        rwa [List.mem_singleton.mp hc]
    | join j ps ih => exact exists_visits_of_mem_visited ih h
  · rintro ⟨path, hvisits, hq⟩
    induction path generalizing p with
    | nil => exact (mem_visited_iff_root_or_child p q).mpr (Or.inl (Option.some.inj hq).symm)
    | cons i path ih =>
        obtain ⟨c, hc, hcq⟩ := at?_cons_eq_some_iff.mp hq
        rw [visits, hc, Bool.and_eq_true] at hvisits
        exact (mem_visited_iff_root_or_child p q).mpr
          (Or.inr ⟨i, c, hc, hvisits.1, ih c hvisits.2 hcq⟩)

end Criteria.Predicate
