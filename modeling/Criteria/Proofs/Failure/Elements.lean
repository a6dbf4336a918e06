/-
# Criteria.Proofs.Failure.Elements — what is inside a failure

Aggregates nest, so a failure is a tree with elementary failures at its leaves. `Failure.elements` reads
those leaves from left to right and says of each how many aggregates it lies in; `Failure.parts` are all
the nodes. An empty aggregate shows only among the parts, because it has no elements.

Neither evaluation nor rendering makes an aggregate that is empty (`Failure.Filled`), so whoever follows
the causes of a failure comes to an elementary one, and it is the first of them (`Filled.getLast?_causes`).
An evaluation moreover makes failures of one sort only (`Failure.OfMismatches`): searching such a failure
finds a type mismatch, and so does following its causes.
-/
import Criteria.Failure.Aggregate
import Criteria.Outcome
import Mathlib.Data.List.Basic

namespace Criteria

namespace Failure

/-! ## Elements and parts -/

mutual

/-- The elementary failures inside a failure, from left to right, each with the number of aggregates
that it lies in. -/
def elements : Failure → List (Nat × Failure)
  | .typeMismatch => [(0, .typeMismatch)]
  | .aggregate fs => (elementsAll fs).map fun e => (e.1 + 1, e.2)
  | .unserializable kind typeName => [(0, .unserializable kind typeName)]

/-- The elementary failures inside the failures of a list, one failure after the other. -/
def elementsAll : List Failure → List (Nat × Failure)
  | [] => []
  | f :: fs => elements f ++ elementsAll fs

end

mutual

/-- A failure and all that is inside it, each failure before those inside it. -/
def parts : Failure → List Failure
  | .typeMismatch => [.typeMismatch]
  | .aggregate fs => .aggregate fs :: partsAll fs
  | .unserializable kind typeName => [.unserializable kind typeName]

/-- The failures of a list and all that is inside them. -/
def partsAll : List Failure → List Failure
  | [] => []
  | f :: fs => parts f ++ partsAll fs

end

theorem elementsAll_eq_flatMap (fs : List Failure) : elementsAll fs = fs.flatMap elements := by
  induction fs with
  | nil => rfl
  | cons f fs ih => rw [elementsAll, ih, List.flatMap_cons]

theorem partsAll_eq_flatMap (fs : List Failure) : partsAll fs = fs.flatMap parts := by
  induction fs with
  | nil => rfl
  | cons f fs ih => rw [partsAll, ih, List.flatMap_cons]

theorem anyTypeMismatch_eq_any (fs : List Failure) :
    anyTypeMismatch fs = fs.any containsTypeMismatch := by
  induction fs with
  | nil => rfl
  | cons f fs ih => rw [anyTypeMismatch, ih, List.any_cons]

theorem elements_aggregate (fs : List Failure) :
    (aggregate fs).elements = (fs.flatMap elements).map fun e => (e.1 + 1, e.2) := by
  rw [elements, elementsAll_eq_flatMap]

/-- Collapsing a bundle puts one aggregate around the elements of its failures; of an empty bundle
nothing is left, and there was nothing in it. -/
theorem flatMap_elements_collapse (fs : List Failure) :
    (Aggregate.ofList fs).collapse.toList.flatMap elements =
      (fs.flatMap elements).map fun e => (e.1 + 1, e.2) := by
  cases fs with
  | nil => rfl
  | cons f fs =>
      have hcollapse : (Aggregate.ofList (f :: fs)).collapse = some (.aggregate (f :: fs)) := rfl
      rw [hcollapse, Option.toList_some, List.flatMap_singleton, elements_aggregate]

/-- What is inside a failure and is no aggregate is one of its elements. -/
theorem exists_mem_elements_of_mem_parts (f : Failure) :
    ∀ g ∈ f.parts, (∀ fs, g ≠ .aggregate fs) → ∃ depth, (depth, g) ∈ f.elements := by
  induction f with
  | typeMismatch =>
      intro g hg _
      rw [List.mem_singleton.mp hg]
      exact ⟨0, List.mem_cons_self⟩
  | unserializable kind typeName =>
      intro g hg _
      rw [List.mem_singleton.mp hg]
      exact ⟨0, List.mem_cons_self⟩
  | aggregate fs ih =>
      intro g hg hne
      rw [parts, partsAll_eq_flatMap, List.mem_cons] at hg
      rcases hg with rfl | hg
      · exact absurd rfl (hne fs)
      · obtain ⟨f, hf, hgf⟩ := List.mem_flatMap.mp hg
        obtain ⟨depth, hdepth⟩ := ih f hf g hgf hne
        refine ⟨depth + 1, ?_⟩
        rw [elements_aggregate]
        exact List.mem_map_of_mem (List.mem_flatMap_of_mem hf hdepth)

/-! ## Failures without an empty aggregate -/

/-- No aggregate in the failure is empty. -/
inductive Filled : Failure → Prop
  | typeMismatch : Filled .typeMismatch
  | unserializable (kind : Kind) (typeName : String) : Filled (.unserializable kind typeName)
  | aggregate {fs : List Failure} :
      fs ≠ [] → (∀ f ∈ fs, Filled f) → Filled (.aggregate fs)

namespace Filled

theorem collapse {fs : List Failure} (h : ∀ f ∈ fs, Filled f) :
    ∀ f ∈ (Aggregate.ofList fs).collapse, Filled f := by
  intro f hf
  cases fs with
  | nil => cases hf
  | cons g gs =>
      cases hf
      exact .aggregate (List.cons_ne_nil g gs) h

theorem of_mem_parts {f : Failure} (h : Filled f) : ∀ g ∈ f.parts, Filled g := by
  induction h with
  | typeMismatch =>
      intro g hg
      rw [List.mem_singleton.mp hg]
      exact .typeMismatch
  | unserializable kind typeName =>
      intro g hg
      rw [List.mem_singleton.mp hg]
      exact .unserializable kind typeName
  | aggregate hne hfs ih =>
      intro g hg
      rw [parts, partsAll_eq_flatMap, List.mem_cons] at hg
      rcases hg with rfl | hg
      · exact .aggregate hne hfs
      · obtain ⟨f, hf, hgf⟩ := List.mem_flatMap.mp hg
        exact ih f hf g hgf

theorem ne_aggregate_nil {f : Failure} (h : Filled f) : f ≠ .aggregate [] := by
  rintro rfl
  cases h with
  | aggregate hne _ => exact hne rfl

/-- There is something inside such a failure. -/
theorem elements_ne_nil {f : Failure} (h : Filled f) : f.elements ≠ [] := by
  induction h with
  | typeMismatch => exact List.cons_ne_nil _ _
  | unserializable kind typeName => exact List.cons_ne_nil _ _
  | @aggregate fs hne _ ih =>
      obtain ⟨g, hg⟩ := List.exists_mem_of_ne_nil fs hne
      intro hempty
      rw [elements_aggregate, List.map_eq_nil_iff, List.flatMap_eq_nil_iff] at hempty
      exact ih g hg (hempty g hg)

/-- The causes of such a failure, followed to their end, lead to its first element. -/
theorem getLast?_causes {f : Failure} (h : Filled f) :
    (f :: f.causes).getLast? = f.elements.head?.map Prod.snd := by
  induction h with
  | typeMismatch => rfl
  | unserializable kind typeName => rfl
  | @aggregate fs hne hfs ih =>
      cases fs with
      | nil => exact absurd rfl hne
      | cons g gs =>
          have hcauses : (Failure.aggregate (g :: gs)).causes = g :: g.causes := by
            rw [causes, causesOfFirst]
          -- the first of the failures has an element, so the first of all is one of its own
          have hfirst : (g.elements ++ gs.flatMap elements).head? = g.elements.head? :=
            List.head?_append_of_ne_nil _ (hfs g List.mem_cons_self).elements_ne_nil
          rw [hcauses, List.getLast?_cons_cons, ih g List.mem_cons_self, elements_aggregate,
            List.flatMap_cons, List.head?_map, hfirst, Option.map_map]
          rfl

end Filled

/-! ## Failures of type mismatches -/

/-- The failure is a type mismatch, or an aggregate of such failures that is not empty. -/
inductive OfMismatches : Failure → Prop
  | typeMismatch : OfMismatches .typeMismatch
  | aggregate {fs : List Failure} :
      fs ≠ [] → (∀ f ∈ fs, OfMismatches f) → OfMismatches (.aggregate fs)

namespace OfMismatches

theorem collapse {fs : List Failure} (h : ∀ f ∈ fs, OfMismatches f) :
    ∀ f ∈ (Aggregate.ofList fs).collapse, OfMismatches f := by
  intro f hf
  cases fs with
  | nil => cases hf
  | cons g gs =>
      cases hf
      exact .aggregate (List.cons_ne_nil g gs) h

/-- Everything inside such a failure is such a failure. -/
theorem of_mem_parts {f : Failure} (h : OfMismatches f) : ∀ g ∈ f.parts, OfMismatches g := by
  induction h with
  | typeMismatch =>
      intro g hg
      rw [List.mem_singleton.mp hg]
      exact .typeMismatch
  | aggregate hne hfs ih =>
      intro g hg
      rw [parts, partsAll_eq_flatMap, List.mem_cons] at hg
      rcases hg with rfl | hg
      · exact .aggregate hne hfs
      · obtain ⟨f, hf, hgf⟩ := List.mem_flatMap.mp hg
        exact ih f hf g hgf

theorem filled {f : Failure} (h : OfMismatches f) : f.Filled := by
  induction h with
  | typeMismatch => exact .typeMismatch
  | aggregate hne _ ih => exact .aggregate hne ih

theorem ne_aggregate_nil {f : Failure} (h : OfMismatches f) : f ≠ .aggregate [] :=
  h.filled.ne_aggregate_nil

theorem ne_unserializable {f : Failure} (h : OfMismatches f) (kind : Kind) (typeName : String) :
    f ≠ .unserializable kind typeName := by
  rintro rfl
  cases h

/-- There is something inside such a failure. -/
theorem elements_ne_nil {f : Failure} (h : OfMismatches f) : f.elements ≠ [] :=
  h.filled.elements_ne_nil

/-- There is nothing but type mismatches inside such a failure. -/
theorem eq_typeMismatch_of_mem_elements {f : Failure} (h : OfMismatches f) :
    ∀ e ∈ f.elements, e.2 = .typeMismatch := by
  induction h with
  | typeMismatch =>
      intro e he
      rw [List.mem_singleton.mp he]
  | aggregate _ _ ih =>
      intro e he
      rw [elements_aggregate, List.mem_map] at he
      obtain ⟨e, he, rfl⟩ := he
      obtain ⟨f, hf, hef⟩ := List.mem_flatMap.mp he
      exact ih f hf e hef

/-- The causes of such a failure, followed to their end, lead to a type mismatch. -/
theorem getLast?_causes {f : Failure} (h : OfMismatches f) :
    (f :: f.causes).getLast? = some .typeMismatch := by
  obtain ⟨e, es, hes⟩ := List.exists_cons_of_ne_nil h.elements_ne_nil
  have hmismatch : e.2 = .typeMismatch :=
    h.eq_typeMismatch_of_mem_elements e (hes ▸ List.mem_cons_self)
  rw [h.filled.getLast?_causes, hes, List.head?_cons, Option.map_some, hmismatch]

/-- Such a failure holds a type mismatch. -/
theorem containsTypeMismatch {f : Failure} (h : OfMismatches f) :
    f.containsTypeMismatch = true := by
  induction h with
  | typeMismatch => rfl
  | @aggregate fs hne _ ih =>
      obtain ⟨g, hg⟩ := List.exists_mem_of_ne_nil fs hne
      rw [Failure.containsTypeMismatch, anyTypeMismatch_eq_any, List.any_eq_true]
      exact ⟨g, hg, ih g hg⟩

end OfMismatches

end Failure

namespace Outcome

variable {α : Type}

/-- The elementary failures that came with the value, from left to right, each with the number of
aggregates that it lies in. -/
def elements (o : Outcome α) : List (Nat × Failure) := o.failure.toList.flatMap Failure.elements

end Outcome

end Criteria
