/-
# Criteria.Proofs.Evaluation.Classical — the best-effort verdict against plain boolean evaluation

A leaf that does not accept its input has no answer. An `Assignment` invents one for every position of
a tree, and `classical` evaluates the WHOLE tree with it, by the boolean connectives alone: no child is
left out, nothing fails, and a leaf that has an answer keeps it.

Some verdicts hold whatever was invented. They are the FIRM ones (`Verdict.Firm`): true, with a failure
or without, and false without a failure. A false verdict with a failure says nothing, which is why a
negation may not invert it. `classical_eq_of_firm` is the induction; that a join stops early does not
matter, because the children it leaves out cannot change a decisive verdict.
-/
import Criteria.Proofs.Evaluation.Reach

namespace Criteria

variable {F : Foreign} {input : Value F} {j : Join}

/-! ## Evaluation without failures -/

/-- An answer for every position of a tree. The root is at `[]`; below a node, the number of a child
among its siblings comes first. -/
def Assignment := List Nat → Bool

/-- What an assignment says below the child with the given number. -/
def Assignment.below (rho : Assignment) (i : Nat) : Assignment := fun path => rho (i :: path)

/-- The assignment that says the same of every position. -/
def Assignment.constant (b : Bool) : Assignment := fun _ => b

@[simp] theorem Assignment.below_constant (b : Bool) (i : Nat) :
    (constant b).below i = constant b := rfl

/-- The conjunction or the disjunction of several answers. -/
def Join.combine : Join → List Bool → Bool
  | .all, answers => answers.all id
  | .any, answers => answers.any id

theorem Join.combine_eq_decisive_iff (j : Join) (answers : List Bool) :
    j.combine answers = j.decisive ↔ j.decisive ∈ answers := by
  cases j <;> simp [Join.combine, Join.decisive]

/-- Answers combine to the same in every order. -/
theorem Join.combine_eq_of_perm {answers others : List Bool} (h : answers.Perm others) :
    j.combine answers = j.combine others := by
  apply j.eq_of_eq_decisive_iff
  rw [combine_eq_decisive_iff, combine_eq_decisive_iff, h.mem_iff]

namespace Predicate

mutual

/-- The answer of a predicate by plain boolean evaluation of the whole tree; a leaf that does not accept
the input answers as the assignment says for its position. -/
def classical (input : Value F) (rho : Assignment) : Predicate F → Bool
  | .leaf t => (t.result? input).getD (rho [])
  | .negation p => !classical input (rho.below 0) p
  | .join j ps => j.combine (classicals input rho 0 ps)

/-- The answers of the children of a node, numbered from `i` on. -/
def classicals (input : Value F) (rho : Assignment) (i : Nat) : List (Predicate F) → List Bool
  | [] => []
  | p :: ps => classical input (rho.below i) p :: classicals input rho (i + 1) ps

end

theorem exists_of_mem_classicals {b : Bool} (rho : Assignment) :
    ∀ (i : Nat) (ps : List (Predicate F)), b ∈ classicals input rho i ps →
      ∃ p ∈ ps, ∃ rho', p.classical input rho' = b
  | _, [], h => by simp [classicals] at h
  | i, p :: ps, h => by
      rcases List.mem_cons.mp h with rfl | h
      · exact ⟨p, by simp, _, rfl⟩
      · obtain ⟨q, hq, rho', hb⟩ := exists_of_mem_classicals rho (i + 1) ps h
        exact ⟨q, List.mem_cons_of_mem p hq, rho', hb⟩

theorem exists_mem_classicals {p : Predicate F} (rho : Assignment) :
    ∀ (i : Nat) (ps : List (Predicate F)), p ∈ ps →
      ∃ rho', p.classical input rho' ∈ classicals input rho i ps
  | _, [], h => by simp at h
  | i, q :: ps, h => by
      rcases List.mem_cons.mp h with rfl | h
      · exact ⟨rho.below i, by simp [classicals]⟩
      · obtain ⟨rho', hp⟩ := exists_mem_classicals rho (i + 1) ps h
        exact ⟨rho', List.mem_cons_of_mem _ hp⟩

/-- The value of a join combines the values of ALL of its children, visited or not. -/
theorem check_join_value (ps : List (Predicate F)) :
    ((join j ps).check input).value = j.combine (ps.map fun p => (p.check input).value) := by
  apply j.eq_of_eq_decisive_iff
  rw [check_join_value_eq_decisive_iff, Join.combine_eq_decisive_iff, List.mem_map]

end Predicate

/-! ## Firm verdicts -/

/-- A verdict that no answer of a refusing leaf can upset: a true one, or a clean one. -/
def Verdict.Firm (v : Verdict) : Prop := v.value = true ∨ v.isClean = true

theorem Verdict.firm_of_isClean {v : Verdict} (h : v.isClean = true) : v.Firm := Or.inr h

/-- The negation of a failed verdict is a failed false, so only clean verdicts have firm negations. -/
theorem Verdict.isClean_of_firm_negate {v : Verdict} (h : v.negate.Firm) : v.isClean = true := by
  rcases h with htrue | hclean
  · rw [Verdict.negate_value, Bool.and_eq_true] at htrue
    exact htrue.1
  · rwa [Outcome.isClean, Verdict.negate_failure] at hclean

theorem Verdict.negate_value_of_isClean {v : Verdict} (h : v.isClean = true) :
    v.negate.value = !v.value := by
  rw [Verdict.negate_value, h, Bool.true_and]

namespace Predicate

/-- A firm join with the decisive verdict has a child that decides it and is firm. -/
theorem exists_firm_decisive {ps : List (Predicate F)} (hf : ((join j ps).check input).Firm)
    (hd : ((join j ps).check input).value = j.decisive) :
    ∃ p ∈ ps, (p.check input).value = j.decisive ∧ (p.check input).Firm := by
  obtain ⟨p, hp, hpd⟩ :=
    exists_decisive_mem_reached ((check_join_value_eq_decisive_iff ps).mp hd)
  refine ⟨p, reached_subset ps hp, hpd, ?_⟩
  rcases hf with hv | hc
  · exact Or.inl (by rw [hpd, ← hd, hv])
  · exact Or.inr ((check_join_isClean_iff ps).mp hc p hp)

/-- Every child of a firm join without the decisive verdict is firm and does not decide. -/
theorem forall_firm_of_not_decisive {ps : List (Predicate F)}
    (hf : ((join j ps).check input).Firm)
    (hd : ((join j ps).check input).value ≠ j.decisive) :
    ∀ p ∈ ps, (p.check input).value ≠ j.decisive ∧ (p.check input).Firm := by
  have hnone : ∀ p ∈ ps, (p.check input).value ≠ j.decisive := fun p hp hpd =>
    hd ((check_join_value_eq_decisive_iff ps).mpr ⟨p, hp, hpd⟩)
  intro p hp
  refine ⟨hnone p hp, ?_⟩
  rcases hf with hv | hc
  · -- a true verdict that is not decisive is that of a conjunction, whose children are then all true
    have hpv : (p.check input).value = ((join j ps).check input).value := by
      rw [Bool.eq_not_of_ne (hnone p hp), Bool.eq_not_of_ne hd]
    exact Or.inl (hpv.trans hv)
  · -- an undecided scan leaves no child out
    rw [check_join_isClean_iff, reached_eq_self hnone] at hc
    exact Or.inr (hc p hp)

/-- A firm verdict is the classical answer, whatever the refusing leaves are taken to say. -/
theorem classical_eq_of_firm (p : Predicate F) :
    (p.check input).Firm → ∀ rho, p.classical input rho = (p.check input).value := by
  induction p with
  | leaf t =>
      intro hf rho
      rw [check_leaf] at hf ⊢
      cases ht : t.result? input with
      | some b => simp [classical, ht, Outcome.clean]
      | none => simp [ht, Verdict.Firm, Outcome.failed, Outcome.isClean] at hf
  | negation p ih =>
      intro hf rho
      rw [check_negation] at hf ⊢
      have hc := Verdict.isClean_of_firm_negate hf
      rw [Verdict.negate_value_of_isClean hc, classical, ih (Verdict.firm_of_isClean hc)]
  | join j ps ih =>
      intro hf rho
      rw [classical]
      by_cases hd : ((join j ps).check input).value = j.decisive
      · obtain ⟨p, hp, hpd, hpf⟩ := exists_firm_decisive hf hd
        obtain ⟨rho', hmem⟩ := exists_mem_classicals rho 0 ps hp
        rw [ih p hp hpf rho', hpd] at hmem
        rw [hd, Join.combine_eq_decisive_iff]
        exact hmem
      · have hall := forall_firm_of_not_decisive hf hd
        have hne : j.combine (classicals input rho 0 ps) ≠ j.decisive := by
          rw [Ne, Join.combine_eq_decisive_iff]
          intro hmem
          obtain ⟨p, hp, rho', hb⟩ := exists_of_mem_classicals rho 0 ps hmem
          exact (hall p hp).1 ((ih p hp (hall p hp).2 rho').symm.trans hb)
        rw [Bool.eq_not_of_ne hne, Bool.eq_not_of_ne hd]

/-- **The best-effort verdict is sound.** A true verdict, with a failure or without, and a clean false
one are the answers of the whole tree under every assignment to the leaves that refuse the input. -/
theorem check_sound (p : Predicate F) (input : Value F) (rho : Assignment) :
    ((p.check input).value = true → p.classical input rho = true) ∧
      ((p.check input).value = false → (p.check input).isClean = true →
        p.classical input rho = false) := by
  refine ⟨fun hv => ?_, fun hv hc => ?_⟩
  · exact (classical_eq_of_firm p (Or.inl hv) rho).trans hv
  · exact (classical_eq_of_firm p (Or.inr hc) rho).trans hv

/-- Two verdicts next to a leaf that refuses the input: a true one that carries its failure, and a
clean false one that was decided before the leaf was visited. -/
theorem check_sound_beside_refusing_leaf :
    (((join .any [leaf (.beginsWith "a"), leaf .existence] : Predicate .unit).check .absent) =
          .failed true (.aggregate [.typeMismatch]) ∧
        (join .any [leaf (.beginsWith "a"), leaf .existence] : Predicate .unit).classical .absent
          (fun _ => false) = true) ∧
      ((join .all [negation (leaf .existence), negation (leaf (.lessThan 0))] :
          Predicate .unit).check .absent = .clean false ∧
        (join .all [negation (leaf .existence), negation (leaf (.lessThan 0))] :
          Predicate .unit).classical .absent (fun _ => false) = false) :=
  ⟨⟨rfl, (check_sound _ .absent _).1 rfl⟩, ⟨rfl, (check_sound _ .absent _).2 rfl rfl⟩⟩

end Predicate

end Criteria
