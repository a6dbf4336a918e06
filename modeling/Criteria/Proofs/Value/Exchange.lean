/-
# Criteria.Proofs.Value.Exchange — writing a value and reading it again

Reading does not undo writing, and is not meant to: it has no whole numbers, and writing has no floats
that are not finite. What comes back is the value's normal form (`normalized`), in which a whole number is
the float nearest to it and a float that is not finite is absent. Everything else comes back as it was,
and normal forms come back as they are.

A value that was read is a normal form to begin with. So for such values writing and reading is the
identity, whatever their depth: the reader has kept its own bounds.

All of this is said of any codec that keeps the laws (`Json.Codec.Faithful`), and of values whose finite
floats it reads back (`FloatsReadBack`). A codec that reads every finite float back gives the statements for
all values.
-/
import Criteria.Proofs.Json.Standard
import Criteria.Proofs.Number.Rounding
import Criteria.Proofs.Value.Entries
import Criteria.Proofs.Value.Writing

namespace Criteria

variable {F : Foreign}

/-! ## What documents stand for -/

namespace Json

/-- The float that a whole number is read as. -/
def wholeNumber (i : ℤ) : Float :=
  if i < 0 then Number.ofInt64 (Int64.ofInt i) else Number.ofUInt64 (UInt64.ofNat i.toNat)

theorem wholeNumber_toInt (i : Int64) : wholeNumber i.toInt = Number.ofInt64 i := by
  rw [wholeNumber]
  split
  · rw [Int64.ofInt_toInt]
  · rename_i hpos
    -- without a sign the number is read as an unsigned one, which is rounded in the same way
    have hnat : i.toInt.toNat = i.toInt.natAbs := by omega
    rw [Number.ofInt64, if_neg (by rwa [Int64.lt_iff_toInt_lt]), hnat]
    rfl

/-- A whole number of 64 bits is read as the float nearest to it, with a sign or without. -/
theorem isNearest_wholeNumber {i : ℤ} (hlow : -2 ^ 63 ≤ i) (hhigh : i < 2 ^ 64) :
    Number.IsNearest (wholeNumber i) i := by
  rw [wholeNumber]
  split
  · have hnearest := Number.isNearest_ofInt64 (Int64.ofInt i)
    rwa [Int64.toInt_ofInt_of_le hlow (by omega)] at hnearest
  · have hnearest := Number.isNearest_ofUInt64 (UInt64.ofNat i.toNat)
    have hnat : (UInt64.ofNat i.toNat).toNat = i.toNat := by
      rw [UInt64.toNat_ofNat']
      omega
    have hcast : ((i.toNat : ℕ) : ℚ) = i := by
      exact_mod_cast Int.toNat_of_nonneg (by omega)
    rwa [hnat, hcast] at hnearest

theorem isFinite_wholeNumber (i : ℤ) : (wholeNumber i).isFinite = true := by
  unfold wholeNumber
  split
  · exact (Number.isNearest_ofInt64 _).isFinite
  · exact (Number.isNearest_ofUInt64 _).isFinite

mutual

/-- The value that a document stands for. -/
def toValue : Json → Value F
  | .null => .absent
  | .bool b => .bool b
  | .integer i => .number (wholeNumber i)
  | .float x => .number x
  | .str s => .str s
  | .arr items => .list (toValues items)
  | .obj members => Value.ofEntries (toEntries members)

/-- The values that the items of an array stand for. -/
def toValues : List Json → List (Value F)
  | [] => []
  | j :: rest => toValue j :: toValues rest

/-- The entries that the members of an object stand for. -/
def toEntries : List (String × Json) → List (String × Value F)
  | [] => []
  | (k, j) :: rest => (k, toValue j) :: toEntries rest

end

theorem toValues_eq_map (items : List Json) :
    (toValues items : List (Value F)) = items.map toValue := by
  induction items with
  | nil => rfl
  | cons j rest ih => rw [toValues, ih, List.map_cons]

theorem toEntries_eq_map (members : List (String × Json)) :
    (toEntries members : List (String × Value F)) = members.map fun m => (m.1, m.2.toValue) := by
  induction members with
  | nil => rfl
  | cons m rest ih => rw [toEntries, ih, List.map_cons]

theorem ofData_itemsToData {items : List Json}
    (h : ∀ j ∈ items, Value.ofDatum (F := F) j.toDatum = .ok j.toValue) :
    Value.ofData (F := F) (itemsToData items) = .ok (toValues items) := by
  induction items with
  | nil => rfl
  | cons j rest ih =>
      obtain ⟨hj, hrest⟩ := List.forall_mem_cons.mp h
      rw [itemsToData, Value.ofData, hj, ih hrest]
      rfl

theorem ofDatumEntries_membersToData {members : List (String × Json)}
    (h : ∀ m ∈ members, Value.ofDatum (F := F) m.2.toDatum = .ok m.2.toValue) :
    Value.ofDatumEntries (F := F) (membersToData members) = .ok (toEntries members) := by
  induction members with
  | nil => rfl
  | cons m rest ih =>
      obtain ⟨hm, hrest⟩ := List.forall_mem_cons.mp h
      rw [membersToData, Value.ofDatumEntries, Datum.toKey]
      dsimp only
      rw [hm, ih hrest]
      rfl

/-- Every document is a value. -/
theorem ofDatum_toDatum (j : Json) : Value.ofDatum (F := F) j.toDatum = .ok j.toValue := by
  induction j with
  | integer i =>
      rw [toDatum, toValue, wholeNumber]
      split <;> rfl
  | arr items ih =>
      rw [toDatum, Value.ofDatum, ofData_itemsToData ih]
      rfl
  | obj members ih =>
      rw [toDatum, Value.ofDatum, ofDatumEntries_membersToData ih]
      rfl
  | _ => rfl

end Json

namespace Value

variable {C : Json.Codec}

/-- A text is read as the value that its document stands for. -/
theorem ofJsonText_eq_ok_iff {text : String} {v : Value F} :
    ofJsonText C text = .ok v ↔ ∃ j, C.read? text = some j ∧ j.toValue = v := by
  unfold ofJsonText
  cases C.read? text with
  | none => simp
  | some j => simp [Json.ofDatum_toDatum]

/-! ## Normal forms -/

mutual

/-- The normal form of a value: its whole numbers are the floats nearest to them, and its floats that are
not finite are absent. -/
def normalized : Value F → Value F
  | .integer i => .number (Number.ofInt64 i)
  | .number x => if x.isFinite then .number x else .absent
  | .list items => .list (normalizedItems items)
  | .map entries => .map (normalizedEntries entries)
  | v => v

/-- The normal forms of the items of a list. -/
def normalizedItems : List (Value F) → List (Value F)
  | [] => []
  | v :: vs => normalized v :: normalizedItems vs

/-- The entries of a map with their values in normal form. -/
def normalizedEntries : List (String × Value F) → List (String × Value F)
  | [] => []
  | (k, v) :: es => (k, normalized v) :: normalizedEntries es

end

theorem normalizedItems_eq_map (items : List (Value F)) :
    normalizedItems items = items.map normalized := by
  induction items with
  | nil => rfl
  | cons v vs ih => rw [normalizedItems, ih, List.map_cons]

theorem normalizedEntries_eq_map (entries : List (String × Value F)) :
    normalizedEntries entries = entries.map fun e => (e.1, e.2.normalized) := by
  induction entries with
  | nil => rfl
  | cons e es ih => rw [normalizedEntries, ih, List.map_cons]

/-- A normal form is its own. -/
theorem normalized_normalized (v : Value F) : v.normalized.normalized = v.normalized := by
  induction v with
  | integer i => rw [normalized, normalized, if_pos (Number.isNearest_ofInt64 i).isFinite]
  | number x =>
      rw [normalized]
      split
      · rename_i hx
        rw [normalized, if_pos hx]
      · rfl
  | list items ih =>
      rw [normalized, normalized, normalizedItems_eq_map, normalizedItems_eq_map, List.map_map]
      exact congrArg list (List.map_congr_left ih)
  | map entries ih =>
      rw [normalized, normalized, normalizedEntries_eq_map, normalizedEntries_eq_map, List.map_map]
      exact congrArg map (List.map_congr_left fun e he => Prod.ext rfl (ih e he))
  | _ => rfl

/-- The value, apart from what is inside it, is one that comes back as it was written. -/
def IsKept : Value F → Prop
  | .integer _ => False
  | .number x => x.isFinite = true
  | .foreign _ => False
  | _ => True

theorem normalized_eq_self {v : Value F} (h : ∀ u ∈ v.parts, u.IsKept) : v.normalized = v := by
  induction v with
  | integer i => exact (h _ List.mem_cons_self).elim
  | number x =>
      have hx : x.isFinite = true := h _ List.mem_cons_self
      rw [normalized, if_pos hx]
  | list items ih =>
      obtain ⟨_, hitems⟩ := (forall_mem_parts_list _).mp h
      have hid : items.map normalized = items.map id :=
        List.map_congr_left fun v hv => ih v hv (hitems v hv)
      rw [normalized, normalizedItems_eq_map, hid, List.map_id]
  | map entries ih =>
      obtain ⟨_, hentries⟩ := (forall_mem_parts_map _).mp h
      have hid : (entries.map fun e => (e.1, e.2.normalized)) = entries.map id :=
        List.map_congr_left fun e he => Prod.ext rfl (ih e he (hentries e he))
      rw [normalized, normalizedEntries_eq_map, hid, List.map_id]
  | _ => rfl

/-! ## Writing and reading -/

/-- What can be written of a value stands for its normal form. -/
theorem toValue_normalized_document {v : Value F} (hv : v.WellFormed)
    (hitem : ∀ u ∈ v.parts, ∀ item, u ≠ .foreign item) :
    v.document.normalized.toValue = v.normalized := by
  induction v with
  | integer i =>
      change Json.toValue (.integer i.toInt) = _
      rw [Json.toValue, Json.wholeNumber_toInt, normalized]
  | number x =>
      rw [document, Json.normalized, normalized]
      split <;> rfl
  | list items ih =>
      obtain ⟨_, hitems⟩ := (forall_mem_parts_list _).mp hitem
      have hwf := (wellFormedItems_iff _).mp hv
      rw [document, documents_eq_map, Json.normalized, Json.normalizedItems_eq_map, Json.toValue,
        Json.toValues_eq_map, List.map_map, List.map_map, normalized, normalizedItems_eq_map]
      exact congrArg list (List.map_congr_left fun v h => ih v h (hwf v h) (hitems v h))
  | map entries ih =>
      obtain ⟨_, hentries⟩ := (forall_mem_parts_map _).mp hitem
      obtain ⟨hascending, hwf⟩ := hv
      have hwf := (wellFormedEntries_iff _).mp hwf
      have hmap : (entries.map fun e => (e.1, e.2.document.normalized.toValue)) =
          entries.map fun e => (e.1, e.2.normalized) :=
        List.map_congr_left fun e h => Prod.ext rfl (ih e h (hwf e h) (hentries e h))
      rw [document, members_eq_map, Json.normalized, Json.normalizedMembers_eq_map, Json.toValue,
        Json.toEntries_eq_map, List.map_map, List.map_map, normalized, normalizedEntries_eq_map,
        ← hmap]
      -- the keys are those of the value, so they ascend
      exact congrArg map (sortEntries_eq_self (List.pairwise_map.mpr hascending))
  | foreign item => exact absurd rfl (hitem _ List.mem_cons_self item)
  | _ => rfl

/-- The finite floats of the value are read back from their texts. -/
def FloatsReadBack (C : Json.Codec) (v : Value F) : Prop :=
  ∀ x, .number x ∈ v.parts → x.isFinite = true → C.ReadsBack x

/-- A written value is read as its normal form. -/
theorem ofJsonText_of_toJsonText (hC : C.Faithful) {v : Value F} (hv : v.WellFormed) {text : String}
    (htext : v.toJsonText C = .ok text) (hdepth : v.document.nesting ≤ C.depthLimit)
    (hfloats : v.FloatsReadBack C) : ofJsonText C text = .ok v.normalized := by
  rw [toJsonText_eq, unlessItem_eq_ok_iff, firstItem?_eq_none_iff] at htext
  obtain ⟨hitem, rfl⟩ := htext
  rw [← Json.nesting_normalized] at hdepth
  have hread := hC.read?_write _ hdepth (keeps_normalized_document hfloats)
  rw [hC.write_normalized] at hread
  refine ofJsonText_eq_ok_iff.mpr ⟨_, hread, toValue_normalized_document hv fun u hu item h => ?_⟩
  rw [h] at hu
  exact hitem item hu

/-! ## Values that were read -/

/-- An entry of the map that an object stands for comes from one of its members. -/
theorem exists_member_of_mem_sortEntries {members : List (String × Json)} {e : String × Value F}
    (he : e ∈ sortEntries (Json.toEntries members)) : ∃ m ∈ members, (m.1, m.2.toValue) = e := by
  have hmem := mem_of_mem_sortEntries he
  rwa [Json.toEntries_eq_map, List.mem_map] at hmem

theorem wellFormed_toValue (j : Json) : (j.toValue : Value F).WellFormed := by
  induction j with
  | arr items ih =>
      rw [Json.toValue, WellFormed, wellFormedItems_iff, Json.toValues_eq_map, List.forall_mem_map]
      exact ih
  | obj members ih =>
      rw [Json.toValue, ofEntries, WellFormed, wellFormedEntries_iff]
      refine ⟨ascending_sortEntries _, fun e he => ?_⟩
      obtain ⟨m, hm, rfl⟩ := exists_member_of_mem_sortEntries he
      exact ih m hm
  | _ => trivial

/-- What is inside a value that was read comes back as it was. -/
theorem isKept_of_mem_parts_toValue {j : Json}
    (h : ∀ k ∈ j.parts, ∀ x, k = .float x → x.isFinite = true) :
    ∀ u ∈ (j.toValue : Value F).parts, u.IsKept := by
  induction j with
  | integer i => exact List.forall_mem_singleton.mpr (Json.isFinite_wholeNumber i)
  | float x => exact List.forall_mem_singleton.mpr (h _ List.mem_cons_self x rfl)
  | arr items ih =>
      rw [Json.parts, List.forall_mem_cons, Json.forall_mem_partsOfItems] at h
      rw [Json.toValue, forall_mem_parts_list, Json.toValues_eq_map, List.forall_mem_map]
      exact ⟨trivial, fun j hj => ih j hj (h.2 j hj)⟩
  | obj members ih =>
      rw [Json.parts, List.forall_mem_cons, Json.forall_mem_partsOfMembers] at h
      rw [Json.toValue, ofEntries, forall_mem_parts_map]
      refine ⟨trivial, fun e he => ?_⟩
      obtain ⟨m, hm, rfl⟩ := exists_member_of_mem_sortEntries he
      exact ih m hm (h.2 m hm)
  | _ => exact List.forall_mem_singleton.mpr trivial

/-- A value that was read is written no deeper than it was read. -/
theorem nesting_document_toValue_le (j : Json) :
    (j.toValue : Value F).document.nesting ≤ j.nesting := by
  induction j with
  | arr items ih =>
      have hdepth := (Json.nestingOfItems_le_iff items).mp (Nat.le_refl _)
      rw [Json.toValue, document, documents_eq_map, Json.toValues_eq_map, Json.nesting, Json.nesting,
        Nat.add_le_add_iff_right, Json.nestingOfItems_le_iff, List.forall_mem_map,
        List.forall_mem_map]
      exact fun j hj => (ih j hj).trans (hdepth j hj)
  | obj members ih =>
      have hdepth := (Json.nestingOfMembers_le_iff members).mp (Nat.le_refl _)
      rw [Json.toValue, ofEntries, document, members_eq_map, Json.nesting, Json.nesting,
        Nat.add_le_add_iff_right, Json.nestingOfMembers_le_iff, List.forall_mem_map]
      intro e he
      obtain ⟨m, hm, rfl⟩ := exists_member_of_mem_sortEntries he
      exact (ih m hm).trans (hdepth m hm)
  | _ => exact Nat.zero_le _

/-- A kept value is written and read as itself. -/
theorem exists_toJsonText_of_isKept (hC : C.Faithful) {v : Value F} (hv : v.WellFormed)
    (hkept : ∀ u ∈ v.parts, u.IsKept) (hdepth : v.document.nesting ≤ C.depthLimit)
    (hfloats : v.FloatsReadBack C) :
    ∃ text, v.toJsonText C = .ok text ∧ ofJsonText C text = .ok v := by
  have htext : v.toJsonText C = .ok (C.write v.document) := by
    rw [toJsonText_eq, unlessItem_eq_ok_iff, firstItem?_eq_none_iff]
    exact ⟨fun item hitem => hkept _ hitem, rfl⟩
  have hread := ofJsonText_of_toJsonText hC hv htext hdepth hfloats
  rw [normalized_eq_self hkept] at hread
  exact ⟨_, htext, hread⟩

/-- A value that was read is written, and read again as itself. -/
theorem exists_toJsonText_of_ofJsonText (hC : C.Faithful) {source : String} {v : Value F}
    (h : ofJsonText C source = .ok v) (hfloats : v.FloatsReadBack C) :
    ∃ text, v.toJsonText C = .ok text ∧ ofJsonText C text = .ok v := by
  obtain ⟨j, hj, rfl⟩ := ofJsonText_eq_ok_iff.mp h
  have hfinite : ∀ k ∈ j.parts, ∀ x, k = .float x → x.isFinite = true := by
    rintro _ hk x rfl
    exact hC.isFinite _ _ hj x hk
  exact exists_toJsonText_of_isKept hC (wellFormed_toValue j) (isKept_of_mem_parts_toValue hfinite)
    ((nesting_document_toValue_le j).trans (hC.nesting_le _ _ hj)) hfloats

/-- **Writing and reading gives the normal form.** Let a codec keep the laws. Writing succeeds exactly if
there is no foreign item inside, and otherwise fails with the type of the first one. What was written is
read as the normal form, within the depth that the codec follows and if it reads the finite floats back. A
normal form is its own; so a value with no whole number, no foreign item and no float that is not finite
comes back as it was, and so does every value that was itself read. -/
theorem exchange_normalizes (C : Json.Codec) (hC : C.Faithful) (v : Value F) (hv : v.WellFormed) :
    ((∃ text, v.toJsonText C = .ok text) ↔ ∀ item, .foreign item ∉ v.parts) ∧
      (∀ e, v.toJsonText C = .error e ↔ ∃ item, v.firstItem? = some item ∧ e = ⟨item.typeName⟩) ∧
      (∀ text, v.toJsonText C = .ok text → v.document.nesting ≤ C.depthLimit →
        v.FloatsReadBack C → ofJsonText C text = .ok v.normalized) ∧
      v.normalized.normalized = v.normalized ∧
      ((∀ u ∈ v.parts, u.IsKept) → v.normalized = v ∧
        (v.document.nesting ≤ C.depthLimit → v.FloatsReadBack C →
          ∃ text, v.toJsonText C = .ok text ∧ ofJsonText C text = .ok v)) ∧
      ∀ source, ofJsonText C source = .ok v → v.FloatsReadBack C →
        ∃ text, v.toJsonText C = .ok text ∧ ofJsonText C text = .ok v := by
  refine ⟨?_, fun e => ?_, fun text => ofJsonText_of_toJsonText hC hv, normalized_normalized v,
    fun hkept => ⟨normalized_eq_self hkept, exists_toJsonText_of_isKept hC hv hkept⟩,
    fun source => exists_toJsonText_of_ofJsonText hC⟩
  · simp only [toJsonText_eq, unlessItem_eq_ok_iff, exists_and_left, exists_eq', and_true,
      firstItem?_eq_none_iff]
  · rw [toJsonText_eq, unlessItem_eq_error_iff]

/-- A value with whole numbers, both sorts of floats, and a map inside a list. -/
def mixed : Value .unit :=
  .list [.integer (-7), .number (-0.0), .number 0.5, .number (0.0 / 0.0),
    .map [("a", .absent), ("b", .integer 3)]]

/-- What `mixed` is read as. -/
def mixedRead : Value .unit :=
  .list [.number (-7.0), .number (-0.0), .number 0.5, .absent,
    .map [("a", .absent), ("b", .number 3.0)]]

theorem readsBack_standard {x : Float} {t : String} (htext : (Json.float x).write = t)
    (hread : Json.ofText? t = some (.float x)) : Json.Codec.standard.ReadsBack x := by
  change Json.ofText? (Json.float x).write = _
  rw [htext, hread]

theorem floatsReadBack_mixed : mixed.FloatsReadBack .standard := by
  intro x hx hfinite
  have hcases : x = -0.0 ∨ x = 0.5 ∨ x = 0.0 / 0.0 := by
    simpa [mixed, parts, partsOfItems, partsOfEntries] using hx
  rcases hcases with rfl | rfl | rfl
  · exact readsBack_standard (t := "-0.0") (by decide +kernel) (by rfl)
  · exact readsBack_standard (t := "0.5") (by decide +kernel) (by rfl)
  · exact absurd hfinite (by decide +kernel)

theorem floatsReadBack_mixedRead : mixedRead.FloatsReadBack .standard := by
  intro x hx _
  have hcases : x = -7.0 ∨ x = -0.0 ∨ x = 0.5 ∨ x = 3.0 := by
    simpa [mixedRead, parts, partsOfItems, partsOfEntries] using hx
  rcases hcases with rfl | rfl | rfl | rfl
  · exact readsBack_standard (t := "-7.0") (by decide +kernel) (by rfl)
  · exact readsBack_standard (t := "-0.0") (by decide +kernel) (by rfl)
  · exact readsBack_standard (t := "0.5") (by decide +kernel) (by rfl)
  · exact readsBack_standard (t := "3.0") (by decide +kernel) (by rfl)

/-- What is written of it is read as its normal form, and that one comes back as it was. -/
theorem exchange_normalizes_of_mixed :
    (∃ text, mixed.toJsonText .standard = .ok text ∧ ofJsonText .standard text = .ok mixedRead) ∧
      ∃ text, mixedRead.toJsonText .standard = .ok text ∧
        ofJsonText .standard text = .ok mixedRead := by
  have hascending : ∀ u v : Value .unit, Ascending [("a", u), ("b", v)] := fun _ _ =>
    List.pairwise_pair.mpr (by decide : "a" < "b")
  have hwf : mixed.WellFormed :=
    ⟨trivial, trivial, trivial, trivial, ⟨hascending _ _, trivial, trivial, trivial⟩, trivial⟩
  have hwfRead : mixedRead.WellFormed :=
    ⟨trivial, trivial, trivial, trivial, ⟨hascending _ _, trivial, trivial, trivial⟩, trivial⟩
  obtain ⟨hok, _, hread, _⟩ :=
    exchange_normalizes .standard Json.Codec.faithful_standard mixed hwf
  obtain ⟨text, htext⟩ := hok.mpr (by simp [mixed, parts, partsOfItems, partsOfEntries])
  have hmixed : ofJsonText .standard text = .ok mixedRead :=
    hread text htext (by decide +kernel) floatsReadBack_mixed
  obtain ⟨_, _, _, _, _, hagain⟩ :=
    exchange_normalizes .standard Json.Codec.faithful_standard mixedRead hwfRead
  exact ⟨⟨text, htext, hmixed⟩, hagain text hmixed floatsReadBack_mixedRead⟩

end Value

end Criteria
