/-
# Criteria.Proofs.Evaluation.Mismatches — the failure of a check is a map of the mismatches

A check is handed one failure, which nests aggregates as the tree nests joins. Read from left to right
it is a list of the visited leaves that do not accept the input, in the order of the tree, and each of
them lies in as many aggregates as there are joins above the leaf (`elements_check`). Nothing is lost,
nothing is counted twice, and a negation leaves no trace.

The induction compares depths, not positions: one join deeper in the tree is one aggregate deeper in the
failure. What a join contributes is found by going through its children together with their numbers,
behind a row of siblings none of which decides (`depths_leavesFrom`).
-/
import Criteria.Assertion
import Criteria.Proofs.Evaluation.Summary
import Criteria.Proofs.Evaluation.Visit

namespace Criteria

variable {F : Foreign} {input : Value F} {j : Join}

namespace Predicate

/-! ## The visited leaves that refuse the input -/

/-- Whether a leaf at a position of the predicate is visited and does not accept the input. -/
def mismatched (input : Value F) (p : Predicate F) (l : List Nat × Test F) : Bool :=
  p.visits input l.1 && !l.2.accepts input

/-- The positions of the visited leaves that do not accept the input, from left to right. -/
def mismatches (input : Value F) (p : Predicate F) : List (List Nat) :=
  (p.leaves.filter (p.mismatched input)).map Prod.fst

theorem mem_mismatches_iff (p : Predicate F) (path : List Nat) :
    path ∈ p.mismatches input ↔
      p.VisitedAt input path ∧ ∃ t, p.at? path = some (.leaf t) ∧ t.accepts input = false := by
  rw [mismatches, List.mem_map]
  constructor
  · rintro ⟨⟨path, t⟩, hl, rfl⟩
    rw [List.mem_filter, mem_leaves_iff, mismatched, Bool.and_eq_true, visits_iff] at hl
    exact ⟨hl.2.1, t, hl.1, (Bool.not_eq_true' _).mp hl.2.2⟩
  · rintro ⟨hvisited, t, hleaf, hrefuses⟩
    refine ⟨(path, t), ?_, rfl⟩
    rw [List.mem_filter, mem_leaves_iff, mismatched, Bool.and_eq_true, visits_iff]
    exact ⟨hleaf, hvisited, (Bool.not_eq_true' _).mpr hrefuses⟩

/-- The positions of mismatches ascend; in particular none occurs twice. -/
theorem pairwise_lt_mismatches (p : Predicate F) :
    (p.mismatches input).Pairwise (· < ·) := by
  rw [mismatches, List.pairwise_map]
  exact p.pairwise_lt_leaves.filter _

/-! ## Depths -/

/-- The numbers of joins above the mismatches, from left to right. -/
def depths (input : Value F) (p : Predicate F) : List Nat := (p.mismatches input).map p.joinsAbove

/-- The depths of mismatches among some leaves of a predicate. -/
def depthsOf (input : Value F) (p : Predicate F) (ls : List (List Nat × Test F)) : List Nat :=
  (ls.filter (p.mismatched input)).map fun l => p.joinsAbove l.1

theorem depths_eq_depthsOf (p : Predicate F) : p.depths input = p.depthsOf input p.leaves :=
  List.map_map ..

theorem depthsOf_append (p : Predicate F) (ls ms : List (List Nat × Test F)) :
    p.depthsOf input (ls ++ ms) = p.depthsOf input ls ++ p.depthsOf input ms := by
  rw [depthsOf, List.filter_append, List.map_append, depthsOf, depthsOf]

/-- The mismatches below a child that the check comes to are those of the child, one join deeper if the
parent is a join. -/
theorem depthsOf_child {p q : Predicate F} {i : Nat} (hopens : p.opens input i = true)
    (hq : p.components[i]? = some q) :
    p.depthsOf input (q.leaves.map fun l => (i :: l.1, l.2)) =
      (q.depths input).map fun d => d + if p.isJoin then 1 else 0 := by
  have hsame : (p.mismatched input ∘ fun l => (i :: l.1, l.2)) = q.mismatched input :=
    funext fun l => by rw [Function.comp_apply, mismatched, visits_cons hopens hq, mismatched]
  rw [depthsOf, List.filter_map, hsame, List.map_map, depths_eq_depthsOf, depthsOf, List.map_map]
  exact List.map_congr_left fun l _ => joinsAbove_cons hq l.1

/-- Behind a child that decides, no leaf is visited. -/
theorem depthsOf_leavesFrom_of_decisive {before rest : List (Predicate F)} {p : Predicate F}
    (h : (p.check input).value = j.decisive) :
    (join j (before ++ p :: rest)).depthsOf input (leavesFrom (before.length + 1) rest) = [] := by
  have hnone : (leavesFrom (before.length + 1) rest).filter
      ((join j (before ++ p :: rest)).mismatched input) = [] := by
    rw [List.filter_eq_nil_iff]
    rintro ⟨path, t⟩ hl hmis
    obtain ⟨k, tail, q, rfl, _, _⟩ := mem_leavesFrom_iff.mp hl
    rw [mismatched, Bool.and_eq_true, visits, Bool.and_eq_true, opens_join_iff] at hmis
    -- the deciding child is an earlier sibling of every one of them
    have hget : ((before ++ p :: rest).take (before.length + 1 + k))[before.length]? = some p := by
      rw [List.getElem?_take_of_lt (by omega)]
      simp
    exact hmis.1.1 p (List.mem_of_getElem? hget) h
  rw [depthsOf, hnone, List.map_nil]

/-- The mismatches among the children of a join behind a row of siblings that do not decide. -/
theorem depthsOf_leavesFrom (before rest : List (Predicate F))
    (hbefore : ∀ p ∈ before, (p.check input).value ≠ j.decisive) :
    (join j (before ++ rest)).depthsOf input (leavesFrom before.length rest) =
      (reached input j rest).flatMap fun p => (p.depths input).map (· + 1) := by
  induction rest generalizing before with
  | nil => rfl
  | cons p rest ih =>
      have hchild : (join j (before ++ p :: rest)).components[before.length]? = some p := by
        simp [components]
      have hopens : (join j (before ++ p :: rest)).opens input before.length = true := by
        rw [opens_join_iff, List.take_left]
        exact hbefore
      rw [leavesFrom, depthsOf_append, depthsOf_child hopens hchild]
      -- a child that does not decide joins the row of siblings that the others stand behind
      by_cases h : (p.check input).value = j.decisive
      · rw [reached_cons_of_decisive rest h, depthsOf_leavesFrom_of_decisive h]
        simp [isJoin]
      · have hbefore' : ∀ q ∈ before ++ [p], (q.check input).value ≠ j.decisive := by
          simpa [or_imp, forall_and] using ⟨hbefore, h⟩
        have hrest := ih (before ++ [p]) hbefore'
        rw [List.append_assoc, List.singleton_append, List.length_append,
          List.length_singleton] at hrest
        rw [reached_cons_of_not_decisive rest h, List.flatMap_cons, hrest]
        rfl

theorem depths_leaf (t : Test F) :
    (leaf t).depths input = if t.accepts input then [] else [0] := by
  rw [depths_eq_depthsOf, leaves, depthsOf, List.filter_singleton, mismatched, visits]
  cases t.accepts input <;> rfl

theorem depths_negation (p : Predicate F) : (negation p).depths input = p.depths input := by
  rw [depths_eq_depthsOf, leaves, depthsOf_child rfl rfl]
  exact List.map_id _

theorem depths_join (ps : List (Predicate F)) :
    (join j ps).depths input =
      (reached input j ps).flatMap fun p => (p.depths input).map (· + 1) := by
  rw [depths_eq_depthsOf]
  exact depthsOf_leavesFrom [] ps (by simp)

/-- The elementary failures of a check are the mismatches, each as deep as its leaf. -/
theorem elements_check (p : Predicate F) :
    (p.check input).elements = (p.depths input).map fun d => (d, .typeMismatch) := by
  induction p with
  | leaf t =>
      rw [check_leaf, depths_leaf, ← t.isSome_result? input]
      cases t.result? input <;> rfl
  | negation p ih => rw [elements_check_negation, ih, depths_negation]
  | join j ps ih =>
      have hreached : ∀ p ∈ reached input j ps,
          (p.check input).elements = (p.depths input).map fun d => (d, .typeMismatch) :=
        fun p hp => ih p (reached_subset ps hp)
      rw [elements_check_join, List.flatMap_congr hreached, depths_join, List.map_flatMap,
        List.map_flatMap]
      simp only [List.map_map]
      rfl

/-! ## The failure as a whole -/

/-- A check is clean exactly when there is no mismatch. -/
theorem isClean_check_iff (p : Predicate F) :
    (p.check input).isClean = true ↔ p.mismatches input = [] := by
  have helements : (p.check input).elements =
      (p.depths input).map fun d => (d, .typeMismatch) := elements_check p
  rw [Outcome.isClean_iff]
  constructor
  · intro hclean
    rw [Outcome.elements, hclean] at helements
    exact List.map_eq_nil_iff.mp (List.map_eq_nil_iff.mp helements.symm)
  · intro hnone
    cases hf : (p.check input).failure with
    | none => rfl
    | some f =>
        have hmade : f.OfMismatches := ofMismatches_of_mem_check_failure p f hf
        rw [Outcome.elements, hf, depths, hnone, Option.toList_some,
          List.flatMap_singleton] at helements
        exact absurd helements hmade.elements_ne_nil

/-- A verdict of a check is clean or holds a type mismatch, and not both. -/
theorem holds_clean_iff_not_holds_typeMismatch (p : Predicate F) :
    Assertion.clean.Holds (p.check input) ↔
      ¬ Assertion.typeMismatch.Holds (p.check input) := by
  rw [Assertion.holds_clean_iff, Assertion.holds_typeMismatch_iff]
  cases hf : (p.check input).failure with
  | none => simp
  | some f =>
      have hmade : f.OfMismatches := ofMismatches_of_mem_check_failure p f hf
      simp [hmade.containsTypeMismatch]

/-- **The failure of a check is an exact map of its mismatches.** From left to right it holds one type
mismatch for each visited leaf that does not accept the input, in the order of the tree, and each lies
in as many aggregates as there are joins above the leaf. So the check is clean exactly when no visited
leaf refuses the input; no aggregate in the failure is empty and none of it comes from rendering; its
causes end in a type mismatch; and a test may demand a clean verdict or a type mismatch of it, of which
exactly one holds. -/
theorem failure_maps_mismatches (p : Predicate F) (input : Value F) :
    (p.check input).elements =
        (p.mismatches input).map (fun path => (p.joinsAbove path, .typeMismatch)) ∧
      (p.mismatches input).Pairwise (· < ·) ∧
      (∀ path, path ∈ p.mismatches input ↔
        p.VisitedAt input path ∧ ∃ t, p.at? path = some (.leaf t) ∧ t.accepts input = false) ∧
      ((p.check input).isClean = true ↔ ∀ path t,
        p.VisitedAt input path → p.at? path = some (.leaf t) → t.accepts input = true) ∧
      (∀ f ∈ (p.check input).failure,
        (∀ g ∈ f.parts, g ≠ .aggregate [] ∧ ∀ kind typeName, g ≠ .unserializable kind typeName) ∧
          (f :: f.causes).getLast? = some .typeMismatch) ∧
      (Assertion.clean.Holds (p.check input) ↔
        ¬ Assertion.typeMismatch.Holds (p.check input)) := by
  refine ⟨?_, pairwise_lt_mismatches p, mem_mismatches_iff p, ?_, fun f hf => ?_,
    holds_clean_iff_not_holds_typeMismatch p⟩
  · rw [elements_check, depths, List.map_map]
    rfl
  · rw [isClean_check_iff, List.eq_nil_iff_forall_not_mem]
    constructor
    · intro hnone path t hvisited hleaf
      rw [← Bool.not_eq_false]
      intro hrefuses
      exact hnone path ((mem_mismatches_iff p path).mpr ⟨hvisited, t, hleaf, hrefuses⟩)
    · intro haccepts path hpath
      obtain ⟨hvisited, t, hleaf, hrefuses⟩ := (mem_mismatches_iff p path).mp hpath
      exact Bool.false_ne_true (hrefuses.symm.trans (haccepts path t hvisited hleaf))
  · have hmade : f.OfMismatches := ofMismatches_of_mem_check_failure p f hf
    refine ⟨fun g hg => ?_, hmade.getLast?_causes⟩
    have hpart : g.OfMismatches := hmade.of_mem_parts g hg
    exact ⟨hpart.ne_aggregate_nil, hpart.ne_unserializable⟩

/-- A conjunction below a negation below a disjunction. Its first leaf accepts the input, the second
refuses it and decides, the third is not visited; the leaf of the disjunction is. -/
theorem failure_maps_mismatches_below_negation :
    ((join .any [negation (join .all [leaf .existence, leaf (.lessThan 0), leaf (.beginsWith "a")]),
        leaf (.lessThan 1)] : Predicate .unit).mismatches .absent) = [[0, 0, 1], [1]] ∧
      ((join .any [negation (join .all [leaf .existence, leaf (.lessThan 0),
          leaf (.beginsWith "a")]), leaf (.lessThan 1)] : Predicate .unit).check .absent).failure =
        some (.aggregate [.aggregate [.typeMismatch], .typeMismatch]) ∧
      ((.aggregate [.aggregate [.typeMismatch], .typeMismatch] : Failure) ::
          (Failure.aggregate [.aggregate [.typeMismatch], .typeMismatch]).causes).getLast? =
        some .typeMismatch :=
  ⟨rfl, rfl, ((failure_maps_mismatches (join .any [negation (join .all [leaf .existence,
    leaf (.lessThan 0), leaf (.beginsWith "a")]), leaf (.lessThan 1)] : Predicate .unit)
    .absent).2.2.2.2.1 _ rfl).2⟩

end Predicate

end Criteria
