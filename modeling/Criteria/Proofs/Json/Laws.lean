/-
# Criteria.Proofs.Json.Laws — what is asked of a codec

Whoever exchanges values relies on four things (`Codec.Faithful`). A float that is not finite is written as
null. Within the limit of nesting, and if every number in it is read back on its own, a document is read
from its text as it was: its structure, its texts, its truth values and its nulls. And what is read keeps
the bounds of JSON: it does not nest deeper than the limit, and its floats are finite.

Of numbers only those of 64 bits are asked for. That a float is read back is a matter of one float and not
of documents, so it stands apart (`Codec.ReadsBack`): the laws hold of codecs that read some floats back
and others not.
-/
import Criteria.Json.Codec
import Mathlib

namespace Criteria.Json

/-! ## What is inside a document -/

mutual

/-- How deep arrays and objects nest in a document. -/
def nesting : Json → ℕ
  | .arr items => nestingOfItems items + 1
  | .obj members => nestingOfMembers members + 1
  | _ => 0

/-- How deep they nest in the items of an array. -/
def nestingOfItems : List Json → ℕ
  | [] => 0
  | j :: rest => max (nesting j) (nestingOfItems rest)

/-- How deep they nest in the members of an object. -/
def nestingOfMembers : List (String × Json) → ℕ
  | [] => 0
  | (_, j) :: rest => max (nesting j) (nestingOfMembers rest)

end

mutual

/-- A document and all documents inside it, each before those inside it. -/
def parts : Json → List Json
  | .arr items => .arr items :: partsOfItems items
  | .obj members => .obj members :: partsOfMembers members
  | j => [j]

/-- The parts of the items of an array, one item after the other. -/
def partsOfItems : List Json → List Json
  | [] => []
  | j :: rest => parts j ++ partsOfItems rest

/-- The parts of the members of an object, one member after the other. -/
def partsOfMembers : List (String × Json) → List Json
  | [] => []
  | (_, j) :: rest => parts j ++ partsOfMembers rest

end

variable {depth : ℕ}

theorem nestingOfItems_le_iff (items : List Json) :
    nestingOfItems items ≤ depth ↔ ∀ j ∈ items, j.nesting ≤ depth := by
  induction items with
  | nil => simp [nestingOfItems]
  | cons j rest ih => rw [nestingOfItems, Nat.max_le, ih, List.forall_mem_cons]

theorem nestingOfMembers_le_iff (members : List (String × Json)) :
    nestingOfMembers members ≤ depth ↔ ∀ m ∈ members, m.2.nesting ≤ depth := by
  induction members with
  | nil => simp [nestingOfMembers]
  | cons m rest ih => rw [nestingOfMembers, Nat.max_le, ih, List.forall_mem_cons]

theorem partsOfItems_eq_flatMap (items : List Json) :
    partsOfItems items = items.flatMap parts := by
  induction items with
  | nil => rfl
  | cons j rest ih => rw [partsOfItems, ih, List.flatMap_cons]

theorem partsOfMembers_eq_flatMap (members : List (String × Json)) :
    partsOfMembers members = members.flatMap fun m => m.2.parts := by
  induction members with
  | nil => rfl
  | cons m rest ih => rw [partsOfMembers, ih, List.flatMap_cons]

theorem forall_mem_partsOfItems {motive : Json → Prop} (items : List Json) :
    (∀ k ∈ partsOfItems items, motive k) ↔ ∀ j ∈ items, ∀ k ∈ j.parts, motive k := by
  rw [partsOfItems_eq_flatMap, List.forall_mem_flatMap]

theorem forall_mem_partsOfMembers {motive : Json → Prop} (members : List (String × Json)) :
    (∀ k ∈ partsOfMembers members, motive k) ↔ ∀ m ∈ members, ∀ k ∈ m.2.parts, motive k := by
  rw [partsOfMembers_eq_flatMap, List.forall_mem_flatMap]

/-! ## What a text can hold -/

mutual

/-- The document as a text can hold it: a float that is not finite is null. -/
def normalized : Json → Json
  | .float x => if x.isFinite then .float x else .null
  | .arr items => .arr (normalizedItems items)
  | .obj members => .obj (normalizedMembers members)
  | j => j

/-- The items of an array as a text can hold them. -/
def normalizedItems : List Json → List Json
  | [] => []
  | j :: rest => normalized j :: normalizedItems rest

/-- The members of an object as a text can hold them. -/
def normalizedMembers : List (String × Json) → List (String × Json)
  | [] => []
  | (k, j) :: rest => (k, normalized j) :: normalizedMembers rest

end

theorem normalizedItems_eq_map (items : List Json) :
    normalizedItems items = items.map normalized := by
  induction items with
  | nil => rfl
  | cons j rest ih => rw [normalizedItems, ih, List.map_cons]

theorem normalizedMembers_eq_map (members : List (String × Json)) :
    normalizedMembers members = members.map fun m => (m.1, m.2.normalized) := by
  induction members with
  | nil => rfl
  | cons m rest ih => rw [normalizedMembers, ih, List.map_cons]

theorem nestingOfItems_map {f : Json → Json} {items : List Json}
    (h : ∀ j ∈ items, (f j).nesting = j.nesting) :
    nestingOfItems (items.map f) = nestingOfItems items := by
  induction items with
  | nil => rfl
  | cons j rest ih =>
      obtain ⟨hj, hrest⟩ := List.forall_mem_cons.mp h
      rw [List.map_cons, nestingOfItems, nestingOfItems, hj, ih hrest]

theorem nestingOfMembers_map {f : Json → Json} {members : List (String × Json)}
    (h : ∀ m ∈ members, (f m.2).nesting = m.2.nesting) :
    nestingOfMembers (members.map fun m => (m.1, f m.2)) = nestingOfMembers members := by
  induction members with
  | nil => rfl
  | cons m rest ih =>
      obtain ⟨hm, hrest⟩ := List.forall_mem_cons.mp h
      rw [List.map_cons, nestingOfMembers, nestingOfMembers, hm, ih hrest]

theorem nesting_normalized (j : Json) : j.normalized.nesting = j.nesting := by
  induction j with
  | float x =>
      rw [normalized]
      split <;> rfl
  | arr items ih =>
      rw [normalized, nesting, nesting, normalizedItems_eq_map]
      exact congrArg (· + 1) (nestingOfItems_map ih)
  | obj members ih =>
      rw [normalized, nesting, nesting, normalizedMembers_eq_map]
      exact congrArg (· + 1) (nestingOfMembers_map ih)
  | _ => rfl

/-- The parts of the document as a text can hold it are the parts of the document as a text can hold
them. -/
theorem parts_normalized (j : Json) : j.normalized.parts = j.parts.map normalized := by
  induction j with
  | float x =>
      have hparts : (float x).parts.map normalized = [(float x).normalized] := rfl
      rw [hparts, normalized]
      split <;> rfl
  | arr items ih =>
      rw [normalized, parts, parts, List.map_cons, normalized, partsOfItems_eq_flatMap,
        partsOfItems_eq_flatMap, normalizedItems_eq_map, List.flatMap_map, List.map_flatMap]
      exact congrArg _ (List.flatMap_congr ih)
  | obj members ih =>
      rw [normalized, parts, parts, List.map_cons, normalized, partsOfMembers_eq_flatMap,
        partsOfMembers_eq_flatMap, normalizedMembers_eq_map, List.flatMap_map, List.map_flatMap]
      exact congrArg _ (List.flatMap_congr ih)
  | _ => rfl

/-! ## The laws -/

namespace Codec

/-- A float is read back on its own. -/
def ReadsBack (C : Codec) (x : Float) : Prop := C.read? (C.write (.float x)) = some (.float x)

/-- A part of a document that does not stand in the way of reading the whole back: if it is a whole number
it has 64 bits, and if it is a float it is read back on its own. -/
def Keeps (C : Codec) : Json → Prop
  | .integer i => -2 ^ 63 ≤ i ∧ i < 2 ^ 64
  | .float x => C.ReadsBack x
  | _ => True

/-- The laws of a codec. -/
structure Faithful (C : Codec) : Prop where
  write_normalized : ∀ j, C.write j.normalized = C.write j
  read?_write : ∀ j, j.nesting ≤ C.depthLimit → (∀ k ∈ j.parts, C.Keeps k) →
    C.read? (C.write j) = some j
  nesting_le : ∀ text j, C.read? text = some j → j.nesting ≤ C.depthLimit
  isFinite : ∀ text j, C.read? text = some j → ∀ x, .float x ∈ j.parts → x.isFinite = true

end Codec

end Criteria.Json
