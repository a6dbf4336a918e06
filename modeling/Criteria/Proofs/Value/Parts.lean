/-
# Criteria.Proofs.Value.Parts — what is inside a value

"Somewhere inside a value, at any depth" is said with one list: `parts` holds the value itself and, after
it, what is inside each item of a list or each entry of a map. The order is that of a walk through the
value, so the first part of some sort is the first one that a recursion comes to.
-/
import Criteria.Value.Basic
import Mathlib.Data.List.Basic

namespace Criteria.Value

variable {F : Foreign}

/-- The values directly inside a value: the items of a list, or the values of a map's entries. -/
def contents : Value F → List (Value F)
  | .list items => items
  | .map entries => entries.map Prod.snd
  | _ => []

mutual

/-- A value and everything inside it, each part before those inside it. -/
def parts : Value F → List (Value F)
  | .list items => .list items :: partsOfItems items
  | .map entries => .map entries :: partsOfEntries entries
  | v => [v]

/-- The parts of the items of a list, one item after the other. -/
def partsOfItems : List (Value F) → List (Value F)
  | [] => []
  | v :: vs => parts v ++ partsOfItems vs

/-- The parts of the values of a map's entries, one entry after the other. -/
def partsOfEntries : List (String × Value F) → List (Value F)
  | [] => []
  | (_, v) :: es => parts v ++ partsOfEntries es

end

theorem partsOfItems_eq_flatMap (items : List (Value F)) :
    partsOfItems items = items.flatMap parts := by
  induction items with
  | nil => rfl
  | cons v vs ih => rw [partsOfItems, ih, List.flatMap_cons]

theorem partsOfEntries_eq_flatMap (entries : List (String × Value F)) :
    partsOfEntries entries = (entries.map Prod.snd).flatMap parts := by
  induction entries with
  | nil => rfl
  | cons e es ih => rw [partsOfEntries, ih, List.map_cons, List.flatMap_cons]

/-- The parts of a value are the value and the parts of its contents. -/
theorem parts_eq_cons (v : Value F) : v.parts = v :: v.contents.flatMap parts := by
  cases v with
  | list items => rw [parts, contents, partsOfItems_eq_flatMap]
  | map entries => rw [parts, contents, partsOfEntries_eq_flatMap]
  | _ => rfl

/-- Something holds of all parts of a value if it holds of the value and of all parts of its contents. -/
theorem forall_mem_parts_iff {motive : Value F → Prop} (v : Value F) :
    (∀ u ∈ v.parts, motive u) ↔ motive v ∧ ∀ w ∈ v.contents, ∀ u ∈ w.parts, motive u := by
  rw [parts_eq_cons, List.forall_mem_cons, List.forall_mem_flatMap]

theorem forall_mem_parts_list {motive : Value F → Prop} (items : List (Value F)) :
    (∀ u ∈ (list items).parts, motive u) ↔
      motive (.list items) ∧ ∀ v ∈ items, ∀ u ∈ v.parts, motive u :=
  forall_mem_parts_iff _

theorem forall_mem_parts_map {motive : Value F → Prop} (entries : List (String × Value F)) :
    (∀ u ∈ (map entries).parts, motive u) ↔
      motive (.map entries) ∧ ∀ e ∈ entries, ∀ u ∈ e.2.parts, motive u := by
  rw [forall_mem_parts_iff, contents, List.forall_mem_map]

/-! ## Well-formed values -/

theorem wellFormedItems_iff (items : List (Value F)) :
    WellFormedItems items ↔ ∀ v ∈ items, v.WellFormed := by
  induction items with
  | nil => simp [WellFormedItems]
  | cons v vs ih => rw [WellFormedItems, ih, List.forall_mem_cons]

theorem wellFormedEntries_iff (entries : List (String × Value F)) :
    WellFormedEntries entries ↔ ∀ e ∈ entries, e.2.WellFormed := by
  induction entries with
  | nil => simp [WellFormedEntries]
  | cons e es ih => rw [WellFormedEntries, ih, List.forall_mem_cons]

end Criteria.Value
