/-
# Criteria.Proofs.Rendering.Holes — the failure of a rendering is a map of its holes

A rendered text has a hole wherever an equality has a literal without a text (`Test.hole?`). There is no
stopping early here: every leaf of the tree is rendered, so the failure that comes with the text lists all
holes from left to right, and each lies in as many aggregates as there are connectives above its leaf. In
this a rendering differs from a check, whose failure passes through a negation as it is; here the negation
bundles what its child failed with, like a join.

Both formats fail alike, for the layout has no part in it (`Format.render_failure`), and the induction is
over the compact form. A position has as many numbers as there are connectives above it, which is why the
induction can count the numbers of positions.
-/
import Criteria.Proofs.Failure.Elements
import Criteria.Proofs.Predicate.Position
import Criteria.Proofs.Rendering.Lines
import Criteria.Rendering.Format

namespace Criteria

variable {F : Foreign}

/-! ## Holes -/

namespace Test

/-- The value that leaves a hole in the text of a test: that of an equality whose literal is neither a
text nor a float, unless it is a truth value or a whole number. -/
def hole? : Test F → Option (Value F)
  | .equals (.other (.bool _)) => none
  | .equals (.other (.integer _)) => none
  | .equals (.other v) => some v
  | _ => none

theorem hole?_eq_some_iff (t : Test F) (v : Value F) :
    t.hole? = some v ↔
      t = .equals (.other v) ∧ (∀ b, v ≠ .bool b) ∧ ∀ i, v ≠ .integer i := by
  constructor
  · intro h
    unfold hole? at h
    split at h
    · cases h
    · cases h
    · rename_i w hbool hinteger
      obtain rfl : w = v := Option.some.inj h
      exact ⟨rfl, fun b hb => hbool b (by rw [hb]), fun i hi => hinteger i (by rw [hi])⟩
    · cases h
  · rintro ⟨rfl, hbool, hinteger⟩
    cases v with
    | bool b => exact absurd rfl (hbool b)
    | integer i => exact absurd rfl (hinteger i)
    | _ => rfl

/-- A test is rendered with a failure exactly if it leaves a hole. -/
theorem render_failure (t : Test F) :
    t.render.failure = t.hole?.map fun v => .unserializable .equals v.typeName := by
  rcases t with _ | l | _ | _ | _ | _ | _
  case equals =>
    rcases l with _ | _ | v
    case other => cases v <;> rfl
    all_goals rfl
  all_goals rfl

end Test

namespace Predicate

/-- The holes in the text of a predicate, from left to right: the positions of the leaves, with the values
that have no text. -/
def holes (p : Predicate F) : List (List Nat × Value F) :=
  p.leaves.filterMap fun l => l.2.hole?.map fun v => (l.1, v)

theorem mem_holes_iff (p : Predicate F) (path : List Nat) (v : Value F) :
    (path, v) ∈ p.holes ↔
      p.at? path = some (.leaf (.equals (.other v))) ∧ (∀ b, v ≠ .bool b) ∧
        ∀ i, v ≠ .integer i := by
  simp only [holes, List.mem_filterMap, Option.map_eq_some_iff, Test.hole?_eq_some_iff]
  constructor
  · rintro ⟨⟨_, t⟩, hl, w, ⟨rfl, hw⟩, heq⟩
    obtain ⟨rfl, rfl⟩ := Prod.mk.inj heq
    exact ⟨(mem_leaves_iff p _ _).mp hl, hw⟩
  · rintro ⟨hleaf, hv⟩
    exact ⟨(path, .equals (.other v)), (mem_leaves_iff p _ _).mpr hleaf, v, ⟨rfl, hv⟩, rfl⟩

/-- The positions of holes ascend; in particular none occurs twice. -/
theorem pairwise_lt_holes (p : Predicate F) : p.holes.Pairwise fun h k => h.1 < k.1 := by
  rw [holes, List.pairwise_filterMap]
  refine p.pairwise_lt_leaves.imp fun {l m} hlt h hh k hk => ?_
  obtain ⟨_, _, rfl⟩ := Option.map_eq_some_iff.mp hh
  obtain ⟨_, _, rfl⟩ := Option.map_eq_some_iff.mp hk
  exact hlt

/-! ## What a rendering fails with -/

/-- The elementary failure for a leaf, as deep as its position has numbers. -/
def holeElement? (l : List Nat × Test F) : Option (Nat × Failure) :=
  l.2.hole?.map fun v => (l.1.length, .unserializable .equals v.typeName)

/-- Below a child, everything is one level deeper. -/
theorem filterMap_holeElement?_child (i : Nat) (ls : List (List Nat × Test F)) :
    (ls.map fun l => (i :: l.1, l.2)).filterMap holeElement? =
      (ls.filterMap holeElement?).map fun e => (e.1 + 1, e.2) := by
  rw [List.filterMap_map, List.map_filterMap]
  refine List.filterMap_congr fun l _ => ?_
  rw [Function.comp_apply, holeElement?, holeElement?, Option.map_map]
  rfl

theorem filterMap_holeElement?_leavesFrom (i : Nat) (ps : List (Predicate F)) :
    (leavesFrom i ps).filterMap holeElement? =
      (ps.flatMap fun p => p.leaves.filterMap holeElement?).map fun e => (e.1 + 1, e.2) := by
  induction ps generalizing i with
  | nil => rfl
  | cons p ps ih =>
      rw [leavesFrom, List.filterMap_append, filterMap_holeElement?_child, ih, List.flatMap_cons,
        List.map_append]

/-- The elementary failures of the compact form are the holes, each as deep as its leaf. -/
theorem elements_compact (p : Predicate F) :
    p.compact.elements = p.leaves.filterMap holeElement? := by
  induction p with
  | leaf t =>
      rw [Outcome.elements, compact, Test.render_failure, leaves]
      cases ht : t.hole? with
      | none => simp [holeElement?, ht]
      | some v => simp [holeElement?, ht, Failure.elements]
  | negation p ih =>
      rw [Outcome.elements, compact_negation_failure, Failure.flatMap_elements_collapse, leaves,
        filterMap_holeElement?_child, ← ih, Outcome.elements]
  | join j ps ih =>
      rw [Outcome.elements, compact_join_failure, Failure.flatMap_elements_collapse, leaves,
        filterMap_holeElement?_leavesFrom, ← List.flatMap_congr ih, List.flatMap_assoc]
      rfl

/-- A rendering fails with no aggregate that is empty. -/
theorem filled_of_mem_compact_failure (p : Predicate F) :
    ∀ f ∈ p.compact.failure, f.Filled := by
  induction p with
  | leaf t =>
      intro f hf
      rw [compact, Test.render_failure] at hf
      obtain ⟨v, _, rfl⟩ := Option.map_eq_some_iff.mp hf
      exact .unserializable .equals v.typeName
  | negation p ih =>
      rw [compact_negation_failure]
      exact Failure.Filled.collapse fun f hf => ih f (Option.mem_toList.mp hf)
  | join j ps ih =>
      rw [compact_join_failure]
      refine Failure.Filled.collapse fun f hf => ?_
      obtain ⟨p, hp, hfp⟩ := List.mem_flatMap.mp hf
      exact ih p hp f (Option.mem_toList.mp hfp)

end Predicate

namespace Format

/-- Both formats fail alike. -/
theorem render_failure (format : Format) (p : Predicate F) :
    (format.render p).failure = p.compact.failure := by
  cases format with
  | compact => rfl
  | indented layout => exact Predicate.lines_failure layout p 0

theorem elements_render (format : Format) (p : Predicate F) :
    (format.render p).elements =
      p.holes.map fun h => (p.connectivesAbove h.1, .unserializable .equals h.2.typeName) := by
  have hdeep : ∀ h ∈ p.holes, p.connectivesAbove h.1 = h.1.length := fun h hh =>
    Predicate.connectivesAbove_eq_length ((p.mem_holes_iff h.1 h.2).mp hh).1
  rw [Outcome.elements, render_failure, ← Outcome.elements, Predicate.elements_compact,
    List.map_congr_left fun h hh => by rw [hdeep h hh], Predicate.holes, List.map_filterMap]
  refine List.filterMap_congr fun l _ => ?_
  rw [Predicate.holeElement?, Option.map_map]
  rfl

theorem filled_of_mem_render_failure (format : Format) (p : Predicate F) :
    ∀ f ∈ (format.render p).failure, f.Filled := by
  rw [render_failure]
  exact p.filled_of_mem_compact_failure

/-- A rendering is clean exactly when there is no hole. -/
theorem isClean_render_iff (format : Format) (p : Predicate F) :
    (format.render p).isClean = true ↔ p.holes = [] := by
  have helements := format.elements_render p
  rw [Outcome.isClean_iff]
  constructor
  · intro hclean
    rw [Outcome.elements, hclean] at helements
    exact List.map_eq_nil_iff.mp helements.symm
  · intro hnone
    cases hf : (format.render p).failure with
    | none => rfl
    | some f =>
        have hfilled : f.Filled := format.filled_of_mem_render_failure p f hf
        rw [Outcome.elements, hf, hnone, Option.toList_some, List.flatMap_singleton] at helements
        exact absurd helements hfilled.elements_ne_nil

/-- Writing a predicate down reports its failure, if there is one, and nothing else. -/
theorem events_encode (format : Format) (p : Predicate F) :
    (format.encode p).events =
      (format.render p).failure.toList.map fun f => .incomplete format.name f.message := by
  rw [encode]
  cases hf : (format.render p).failure <;> simp [Traced.pure, Traced.report]

/-- **The failure of a rendering is an exact map of its holes.** In either format it holds, from left to
right, one elementary failure for each equality whose literal has no text, and each lies in as many
aggregates as there are connectives above the leaf. So the rendering is clean exactly when there is no
such leaf; no aggregate in the failure is empty and none of it comes from evaluation; its causes end in
the failure of the leftmost hole; and writing the predicate down reports one event if there is a hole and
none if there is not. -/
theorem failure_maps_holes (format : Format) (p : Predicate F) :
    (format.render p).elements =
        p.holes.map (fun h => (p.connectivesAbove h.1, .unserializable .equals h.2.typeName)) ∧
      p.holes.Pairwise (fun h k => h.1 < k.1) ∧
      (∀ path v, (path, v) ∈ p.holes ↔
        p.at? path = some (.leaf (.equals (.other v))) ∧ (∀ b, v ≠ .bool b) ∧
          ∀ i, v ≠ .integer i) ∧
      ((format.render p).isClean = true ↔ ∀ path v,
        p.at? path = some (.leaf (.equals (.other v))) →
          (∃ b, v = .bool b) ∨ ∃ i, v = .integer i) ∧
      (∀ f ∈ (format.render p).failure,
        (∀ g ∈ f.parts, g ≠ .aggregate [] ∧ g ≠ .typeMismatch) ∧
          (f :: f.causes).getLast? =
            p.holes.head?.map fun h => .unserializable .equals h.2.typeName) ∧
      (format.encode p).value = format.render p ∧
      (format.encode p).events =
        (format.render p).failure.toList.map (fun f => .incomplete format.name f.message) ∧
      (format.encode p).events.length = if p.holes = [] then 0 else 1 := by
  have helements := format.elements_render p
  refine ⟨helements, p.pairwise_lt_holes, p.mem_holes_iff, ?_, fun f hf => ?_, ?_,
    format.events_encode p, ?_⟩
  · rw [isClean_render_iff, List.eq_nil_iff_forall_not_mem]
    constructor
    · intro hnone path v hleaf
      by_contra hv
      rw [not_or, not_exists, not_exists] at hv
      exact hnone (path, v) ((p.mem_holes_iff path v).mpr ⟨hleaf, hv⟩)
    · rintro hall ⟨path, v⟩ hhole
      obtain ⟨hleaf, hbool, hinteger⟩ := (p.mem_holes_iff path v).mp hhole
      rcases hall path v hleaf with ⟨b, hb⟩ | ⟨i, hi⟩
      · exact hbool b hb
      · exact hinteger i hi
  · have hfilled : f.Filled := format.filled_of_mem_render_failure p f hf
    rw [Outcome.elements, hf, Option.toList_some, List.flatMap_singleton] at helements
    refine ⟨fun g hg => ⟨(hfilled.of_mem_parts g hg).ne_aggregate_nil, ?_⟩, ?_⟩
    · -- a type mismatch inside would be one of the elements, and these are the holes
      rintro rfl
      obtain ⟨depth, hmem⟩ := f.exists_mem_elements_of_mem_parts _ hg nofun
      rw [helements, List.mem_map] at hmem
      obtain ⟨_, _, heq⟩ := hmem
      cases heq
    · rw [hfilled.getLast?_causes, helements, List.head?_map, Option.map_map]
      rfl
  · rw [encode]
    cases (format.render p).failure <;> rfl
  · have hholes := format.isClean_render_iff p
    rw [Outcome.isClean_iff] at hholes
    rw [format.events_encode p, List.length_map]
    cases hf : (format.render p).failure with
    | none => rw [if_pos (hholes.mp hf)]; rfl
    | some f =>
        rw [if_neg fun hnil => by rw [hholes.mpr hnil] at hf; cases hf]
        rfl

/-- A list and a text put into equalities as they are, the text below two negations of joins. The truth
value leaves no hole. -/
theorem failure_maps_holes_below_negations :
    ((.join .any [.leaf (.equals (.other (.list []))), .leaf (.equals (.other (.bool true))),
        .negation (.join .all [.leaf .existence, .leaf (.equals (.other (.str "a")))])] :
      Predicate .unit).holes.map fun h => (h.1, h.2.typeName)) =
        [([0], "list"), ([2, 0, 1], "string")] ∧
      ((.aggregate [.unserializable .equals "list",
          .aggregate [.aggregate [.unserializable .equals "string"]]] : Failure) ::
        (Failure.aggregate [.unserializable .equals "list",
          .aggregate [.aggregate [.unserializable .equals "string"]]]).causes).getLast? =
        some (.unserializable .equals "list") :=
  ⟨rfl, ((failure_maps_holes .compact (.join .any [.leaf (.equals (.other (.list []))),
    .leaf (.equals (.other (.bool true))), .negation (.join .all [.leaf .existence,
      .leaf (.equals (.other (.str "a")))])] : Predicate .unit)).2.2.2.2.1 _ rfl).2⟩

end Format

end Criteria
