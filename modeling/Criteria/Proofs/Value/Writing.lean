/-
# Criteria.Proofs.Value.Writing — the documents of values

Writing a value either gives its document (`document`) or fails at a foreign item. Nothing else can go
wrong, and nothing is written of a value that has one anywhere inside: of its foreign items the one that
a walk through the value meets first makes the failure (`toJson_eq`).

The document nests as the value does. Its whole numbers have 64 bits and its floats are those of the value,
so a codec keeps every part of it once the floats that are not finite are null, if it reads the others back
(`keeps_normalized_document`).
-/
import Criteria.Proofs.Json.Laws
import Criteria.Proofs.Text.Boundaries
import Criteria.Proofs.Value.Parts
import Criteria.Value.Exchange

namespace Criteria

variable {F : Foreign}

/-- The message of a failure tells the name of the type. -/
theorem WriteError.message_injective : Function.Injective WriteError.message := by
  rintro ⟨typeName⟩ ⟨typeName'⟩ h
  exact congrArg mk (Text.enclosed_inj h)

namespace Value

/-! ## Documents -/

mutual

/-- The document of a value; for a foreign item, which has none, it has null. -/
def document : Value F → Json
  | .absent => .null
  | .bool b => .bool b
  | .integer i => .integer i.toInt
  | .number x => .float x
  | .str s => .str s
  | .list items => .arr (documents items)
  | .map entries => .obj (members entries)
  | .foreign _ => .null

/-- The documents of the items of a list. -/
def documents : List (Value F) → List Json
  | [] => []
  | v :: vs => document v :: documents vs

/-- The members for the entries of a map. -/
def members : List (String × Value F) → List (String × Json)
  | [] => []
  | (k, v) :: es => (k, document v) :: members es

end

theorem documents_eq_map (items : List (Value F)) : documents items = items.map document := by
  induction items with
  | nil => rfl
  | cons v vs ih => rw [documents, ih, List.map_cons]

theorem members_eq_map (entries : List (String × Value F)) :
    members entries = entries.map fun e => (e.1, e.2.document) := by
  induction entries with
  | nil => rfl
  | cons e es ih => rw [members, ih, List.map_cons]

/-! ## The first foreign item -/

/-- What is written, unless there is a foreign item, which makes the failure. -/
def unlessItem {α : Type} (item : Option F.Item) (a : α) : Except WriteError α :=
  match item with
  | some item => .error ⟨item.typeName⟩
  | none => .ok a

variable {α β : Type}

theorem map_unlessItem (f : α → β) (item : Option F.Item) (a : α) :
    (unlessItem item a).map f = unlessItem item (f a) := by
  cases item <;> rfl

theorem unlessItem_eq_ok_iff {item : Option F.Item} {a b : α} :
    unlessItem item a = .ok b ↔ item = none ∧ a = b := by
  cases item <;> simp [unlessItem]

theorem unlessItem_eq_error_iff {item : Option F.Item} {a : α} {e : WriteError} :
    unlessItem item a = .error e ↔ ∃ i, item = some i ∧ e = ⟨i.typeName⟩ := by
  cases item <;> simp [unlessItem, eq_comm]

/-- The foreign item that a walk through the value meets first. -/
def firstItem? (v : Value F) : Option F.Item := v.parts.findSome? item?

/-- There is no first foreign item exactly if there is none. -/
theorem firstItem?_eq_none_iff (v : Value F) :
    v.firstItem? = none ↔ ∀ item, .foreign item ∉ v.parts := by
  rw [firstItem?, List.findSome?_eq_none_iff]
  constructor
  · intro h item hitem
    cases h _ hitem
  · intro h u hu
    cases u with
    | foreign item => exact absurd hu (h item)
    | _ => rfl

theorem itemsToJson_eq {items : List (Value F)}
    (h : ∀ v ∈ items, v.toJson = unlessItem v.firstItem? v.document) :
    itemsToJson items =
      unlessItem ((items.flatMap parts).findSome? item?) (items.map document) := by
  induction items with
  | nil => rfl
  | cons v vs ih =>
      obtain ⟨hv, hvs⟩ := List.forall_mem_cons.mp h
      rw [itemsToJson, hv, ih hvs, List.flatMap_cons, List.findSome?_append, ← firstItem?]
      -- an item inside the first value hides those of the others
      cases v.firstItem? with
      | some item => rfl
      | none => exact map_unlessItem _ _ _

theorem entriesToJson_eq {entries : List (String × Value F)}
    (h : ∀ e ∈ entries, e.2.toJson = unlessItem e.2.firstItem? e.2.document) :
    entriesToJson entries =
      unlessItem (((entries.map Prod.snd).flatMap parts).findSome? item?)
        (entries.map fun e => (e.1, e.2.document)) := by
  induction entries with
  | nil => rfl
  | cons e es ih =>
      obtain ⟨he, hes⟩ := List.forall_mem_cons.mp h
      rw [entriesToJson, he, ih hes, List.map_cons, List.flatMap_cons, List.findSome?_append,
        ← firstItem?]
      cases e.2.firstItem? with
      | some item => rfl
      | none => exact map_unlessItem _ _ _

/-- Writing gives the document, unless there is a foreign item inside the value. -/
theorem toJson_eq (v : Value F) : v.toJson = unlessItem v.firstItem? v.document := by
  induction v with
  | list items ih =>
      rw [toJson, itemsToJson_eq ih, map_unlessItem, firstItem?, parts_eq_cons, document,
        documents_eq_map]
      rfl
  | map entries ih =>
      rw [toJson, entriesToJson_eq ih, map_unlessItem, firstItem?, parts_eq_cons, document,
        members_eq_map]
      rfl
  | _ => rfl

theorem toJsonText_eq (C : Json.Codec) (v : Value F) :
    v.toJsonText C = unlessItem v.firstItem? (C.write v.document) := by
  rw [toJsonText, toJson_eq, map_unlessItem]

/-! ## What is in a document -/

/-- What holds of the documents that stand for single values holds of everything in a document. -/
theorem forall_mem_parts_document {motive : Json → Prop} (harr : ∀ items, motive (.arr items))
    (hobj : ∀ members, motive (.obj members)) (v : Value F)
    (h : ∀ u ∈ v.parts, motive u.document) : ∀ k ∈ v.document.parts, motive k := by
  induction v with
  | list items ih =>
      rw [document, documents_eq_map, Json.parts, List.forall_mem_cons,
        Json.forall_mem_partsOfItems, List.forall_mem_map]
      exact ⟨harr _, fun v hv => ih v hv (((forall_mem_parts_list _).mp h).2 v hv)⟩
  | map entries ih =>
      rw [document, members_eq_map, Json.parts, List.forall_mem_cons,
        Json.forall_mem_partsOfMembers, List.forall_mem_map]
      exact ⟨hobj _, fun e he => ih e he (((forall_mem_parts_map _).mp h).2 e he)⟩
  | _ => exact List.forall_mem_singleton.mpr (h _ List.mem_cons_self)

/-- A codec keeps every part of what it writes if it reads the finite floats of the value back. -/
theorem keeps_normalized_document {C : Json.Codec} {v : Value F}
    (h : ∀ x, .number x ∈ v.parts → x.isFinite = true → C.ReadsBack x) :
    ∀ k ∈ v.document.normalized.parts, C.Keeps k := by
  rw [Json.parts_normalized, List.forall_mem_map]
  refine forall_mem_parts_document (fun _ => trivial) (fun _ => trivial) v fun u hu => ?_
  -- only numbers have to be looked at, and of these the infinities and NaNs are null by now
  cases u with
  | integer i => exact ⟨i.le_toInt, Int.lt_trans i.toInt_lt (by decide)⟩
  | number x =>
      rw [document, Json.normalized]
      split
      · rename_i hx
        exact h x hu hx
      · trivial
  | _ => trivial

end Value

end Criteria
