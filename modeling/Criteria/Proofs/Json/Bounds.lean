/-
# Criteria.Proofs.Json.Bounds — what is read stays within the bounds of the reader

Beside the grammar the reader has two bounds, and a document that it gives keeps both: it nests no deeper
than the reader follows, and its floats are finite (`IsBounded`). Each of the three readers calls the
others with less fuel, so they are followed together, by induction on the fuel.
-/
import Criteria.Proofs.Json.Documents
import Criteria.Proofs.Number.Finite

namespace Criteria.Json

/-- The document nests at most `depth` deep, and its floats are finite. -/
def IsBounded (depth : ℕ) (j : Json) : Prop :=
  j.nesting ≤ depth ∧ ∀ k ∈ j.parts, ∀ x, k = .float x → x.isFinite = true

variable {depth : ℕ}

theorem isBounded_null : IsBounded depth .null := ⟨Nat.zero_le _, by simp [parts]⟩

theorem isBounded_bool (b : Bool) : IsBounded depth (.bool b) := ⟨Nat.zero_le _, by simp [parts]⟩

theorem isBounded_str (s : String) : IsBounded depth (.str s) := ⟨Nat.zero_le _, by simp [parts]⟩

theorem isBounded_integer (i : ℤ) : IsBounded depth (.integer i) :=
  ⟨Nat.zero_le _, by simp [parts]⟩

theorem isBounded_float {x : Float} (h : x.isFinite = true) : IsBounded depth (.float x) :=
  ⟨Nat.zero_le _, by simpa [parts] using h⟩

theorem isBounded_arr {items : List Json} (h : ∀ j ∈ items, j.IsBounded depth) :
    IsBounded (depth + 1) (.arr items) := by
  constructor
  · rw [nesting, Nat.add_le_add_iff_right, nestingOfItems_le_iff]
    exact fun j hj => (h j hj).1
  · rw [parts, List.forall_mem_cons, forall_mem_partsOfItems]
    refine ⟨fun x hx => ?_, fun j hj => (h j hj).2⟩
    cases hx

theorem isBounded_obj {members : List (String × Json)} (h : ∀ m ∈ members, m.2.IsBounded depth) :
    IsBounded (depth + 1) (.obj members) := by
  constructor
  · rw [nesting, Nat.add_le_add_iff_right, nestingOfMembers_le_iff]
    exact fun m hm => (h m hm).1
  · rw [parts, List.forall_mem_cons, forall_mem_partsOfMembers]
    refine ⟨fun x hx => ?_, fun m hm => (h m hm).2⟩
    cases hx

/-! ## Numbers -/

theorem isBounded_of_nearestFloat? {negative : Bool} {units : ℕ} {power : ℤ} {j : Json}
    (h : (Decimal.nearestFloat? negative units power).map .float = some j) : j.IsBounded depth := by
  obtain ⟨x, hx, rfl⟩ := Option.map_eq_some_iff.mp h
  exact isBounded_float (Number.isFinite_of_nearestFloat? hx)

theorem isBounded_of_ofParts? {negative : Bool} {whole fraction : List Char} {exponent : Option ℤ}
    {j : Json} (h : ofParts? negative whole fraction exponent = some j) : j.IsBounded depth := by
  unfold ofParts? at h
  split at h
  · unfold ofWhole? at h
    split at h
    · obtain rfl := Option.some.inj h
      exact isBounded_integer _
    · split at h
      · obtain rfl := Option.some.inj h
        exact isBounded_integer _
      · exact isBounded_of_nearestFloat? h
  · exact isBounded_of_nearestFloat? h

theorem isBounded_of_readNumber {cs rest : List Char} {j : Json}
    (h : readNumber cs = some (j, rest)) : j.IsBounded depth := by
  obtain ⟨_, _, _, _, _, _, _, _, hj⟩ := readNumber_eq_some_iff.mp h
  exact isBounded_of_ofParts? hj

/-! ## Documents -/

/-- What the readers give with some fuel stays within the bounds. -/
structure ReadsBounded (fuel : ℕ) : Prop where
  value : ∀ ⦃depth cs j rest⦄, readValue fuel depth cs = some (j, rest) → j.IsBounded depth
  items : ∀ ⦃depth cs items rest⦄, readItems fuel depth cs = some (items, rest) →
    ∀ j ∈ items, j.IsBounded depth
  members : ∀ ⦃depth cs members rest⦄, readMembers fuel depth cs = some (members, rest) →
    ∀ m ∈ members, m.2.IsBounded depth

variable {fuel : ℕ}

theorem isBounded_of_readValue (ih : ReadsBounded fuel) {cs rest : List Char} {j : Json}
    (h : readValue (fuel + 1) depth cs = some (j, rest)) : j.IsBounded depth := by
  unfold readValue at h
  split at h
  · cases h; exact isBounded_null
  · cases h; exact isBounded_bool true
  · cases h; exact isBounded_bool false
  · obtain ⟨p, _, heq⟩ := Option.map_eq_some_iff.mp h
    cases heq
    exact isBounded_str _
  · cases h
  · cases h
  · split at h
    · cases h; exact isBounded_arr (by simp)
    · obtain ⟨p, hp, heq⟩ := Option.map_eq_some_iff.mp h
      cases heq
      exact isBounded_arr (ih.items hp)
  · split at h
    · cases h; exact isBounded_obj (by simp)
    · obtain ⟨p, hp, heq⟩ := Option.map_eq_some_iff.mp h
      cases heq
      exact isBounded_obj (ih.members hp)
  · exact isBounded_of_readNumber h

theorem isBounded_of_readItems (ih : ReadsBounded fuel) {cs rest : List Char} {items : List Json}
    (h : readItems (fuel + 1) depth cs = some (items, rest)) : ∀ j ∈ items, j.IsBounded depth := by
  rw [readItems] at h
  split at h
  · rename_i j after hj
    split at h
    · obtain ⟨p, hp, heq⟩ := Option.map_eq_some_iff.mp h
      cases heq
      exact List.forall_mem_cons.mpr ⟨ih.value hj, ih.items hp⟩
    · cases h
      exact List.forall_mem_singleton.mpr (ih.value hj)
    · cases h
  · cases h

theorem isBounded_of_readMembers (ih : ReadsBounded fuel) {cs rest : List Char}
    {members : List (String × Json)} (h : readMembers (fuel + 1) depth cs = some (members, rest)) :
    ∀ m ∈ members, m.2.IsBounded depth := by
  rw [readMembers] at h
  -- a quote, the key, a colon and the document stand in front of what is read next
  split at h
  · split at h
    · split at h
      · split at h
        · rename_i j after hj
          split at h
          · obtain ⟨p, hp, heq⟩ := Option.map_eq_some_iff.mp h
            cases heq
            exact List.forall_mem_cons.mpr ⟨ih.value hj, ih.members hp⟩
          · cases h
            exact List.forall_mem_singleton.mpr (ih.value hj)
          · cases h
        · cases h
      · cases h
    · cases h
  · cases h

theorem readsBounded (fuel : ℕ) : ReadsBounded fuel := by
  induction fuel with
  | zero =>
      constructor
      · intro _ _ _ _ h; rw [readValue] at h; cases h
      · intro _ _ _ _ h; rw [readItems] at h; cases h
      · intro _ _ _ _ h; rw [readMembers] at h; cases h
  | succ fuel ih =>
      exact ⟨fun _ _ _ _ => isBounded_of_readValue ih, fun _ _ _ _ => isBounded_of_readItems ih,
        fun _ _ _ _ => isBounded_of_readMembers ih⟩

/-- A document that a text is stays within the bounds. -/
theorem isBounded_of_ofText? {text : String} {j : Json} (h : ofText? text = some j) :
    j.IsBounded depthLimit := by
  unfold ofText? at h
  dsimp only at h
  split at h
  · rename_i k rest hk
    split at h
    · cases h
      exact (readsBounded _).value hk
    · cases h
  · cases h

end Criteria.Json
