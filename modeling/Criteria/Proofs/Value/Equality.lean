/-
# Criteria.Proofs.Value.Equality — values that compare equal

Equality of values is not reflexive, for a NaN differs from itself and so may a foreign item. Nor is it
identity, for the two zeros are equal, and what else is equal among foreign items is for the caller to
say. What is left are two of the three laws of an equivalence (`PartialEquivBEq`), and they hold as soon
as the caller's comparisons have them (`Foreign.Symmetric`, `Foreign.PartialEquiv`).

Everything here comes from one inversion lemma per kind of value: what is equal to a list is a list, of
items that are equal one by one, and so on. From these, too, that values fail to equal themselves only
through a NaN or a foreign item somewhere inside (`beq_self_iff`).
-/
import Criteria.Description.Basic
import Criteria.Proofs.Number.Order
import Criteria.Proofs.Value.Parts
import Mathlib.Data.List.Forall2

namespace Criteria

/-! ## Lists related one by one -/

/-- Lists related one by one to the same list are related one by one. -/
theorem forall₂_trans {α : Type} {R S T : α → α → Prop} (hT : ∀ a b c, R a b → S b c → T a c)
    {as bs cs : List α} (hR : List.Forall₂ R as bs) (hS : List.Forall₂ S bs cs) :
    List.Forall₂ T as cs := by
  induction hR generalizing cs with
  | nil =>
      cases hS
      exact .nil
  | cons hab _ ih =>
      cases hS with
      | cons hbc hrest => exact .cons (hT _ _ _ hab hbc) (ih hrest)

/-- The comparison of each of the caller's types is symmetric. -/
class Foreign.Symmetric (F : Foreign) : Prop where
  symm {t : F.Tag} {a b : F.Carrier t} : F.same t a b = true → F.same t b a = true

/-- The comparison of each of the caller's types is symmetric and transitive. -/
class Foreign.PartialEquiv (F : Foreign) : Prop where
  symm {t : F.Tag} {a b : F.Carrier t} : F.same t a b = true → F.same t b a = true
  trans {t : F.Tag} {a b c : F.Carrier t} :
    F.same t a b = true → F.same t b c = true → F.same t a c = true

instance {F : Foreign} [F.PartialEquiv] : F.Symmetric where
  symm := Foreign.PartialEquiv.symm

instance Number.partialEquivBEq : PartialEquivBEq Float where
  symm := Number.beq_symm
  trans := Number.beq_trans

/-- The family of a single type, that of floats with their own comparison. -/
def Foreign.floats : Foreign where
  Tag := Unit
  decideTag := inferInstance
  Carrier _ := Float
  same _ x y := x == y
  name _ := "float"
  describe _ x := Description.ofFloat x
  engine := .standard

instance : Foreign.floats.PartialEquiv where
  symm := Number.beq_symm
  trans := Number.beq_trans

variable {F : Foreign}

namespace Foreign.Item

/-- Equal items are values of one type that its comparison finds equal. -/
theorem exists_of_beq {a b : F.Item} (h : (a == b) = true) :
    ∃ t x y, a = ⟨t, x⟩ ∧ b = ⟨t, y⟩ ∧ F.same t x y = true := by
  obtain ⟨s, x⟩ := a
  obtain ⟨t, y⟩ := b
  by_cases hst : s = t
  · subst hst
    exact ⟨s, x, y, rfl, rfl, by rwa [beq_mk] at h⟩
  · rw [beq_eq_false_of_tag_ne (a := ⟨s, x⟩) (b := ⟨t, y⟩) hst] at h
    cases h

theorem tag_eq_of_beq {a b : F.Item} (h : (a == b) = true) : a.tag = b.tag := by
  obtain ⟨t, x, y, rfl, rfl, _⟩ := exists_of_beq h
  rfl

instance [F.Symmetric] : Std.Symm fun a b : F.Item => (a == b) = true where
  symm := by
    intro a b h
    obtain ⟨t, x, y, rfl, rfl, hxy⟩ := exists_of_beq h
    rw [beq_mk]
    exact Symmetric.symm hxy

instance [F.PartialEquiv] : PartialEquivBEq F.Item where
  symm := BEq.symm
  trans := by
    intro a b c hab hbc
    obtain ⟨t, x, y, rfl, rfl, hxy⟩ := exists_of_beq hab
    obtain ⟨_, y, z, heq, rfl, hyz⟩ := exists_of_beq hbc
    cases heq
    rw [beq_mk]
    exact PartialEquiv.trans hxy hyz

end Foreign.Item

namespace Value

variable {v w : Value F}

/-! ## What is equal to a value of each kind -/

theorem beqItems_iff (vs ws : List (Value F)) :
    beqItems vs ws = true ↔ List.Forall₂ (fun v w => (v == w) = true) vs ws := by
  induction vs generalizing ws with
  | nil => cases ws <;> simp [beqItems]
  | cons v vs ih =>
      cases ws with
      | nil => simp [beqItems]
      | cons w ws =>
          rw [beqItems, Bool.and_eq_true, ih, List.forall₂_cons]
          rfl

theorem beqEntries_iff (es fs : List (String × Value F)) :
    beqEntries es fs = true ↔
      List.Forall₂ (fun e f => e.1 = f.1 ∧ (e.2 == f.2) = true) es fs := by
  induction es generalizing fs with
  | nil => cases fs <;> simp [beqEntries]
  | cons e es ih =>
      cases fs with
      | nil => simp [beqEntries]
      | cons f fs =>
          rw [beqEntries, Bool.and_eq_true, Bool.and_eq_true, ih, List.forall₂_cons, beq_iff_eq]
          rfl

theorem absent_beq_iff : ((absent : Value F) == w) = true ↔ absent = w := by
  change beq _ _ = true ↔ _
  cases w <;> simp [beq]

theorem bool_beq_iff {b : Bool} : ((bool b : Value F) == w) = true ↔ bool b = w := by
  change beq _ _ = true ↔ _
  cases w <;> simp [beq]

theorem integer_beq_iff {i : Int64} : ((integer i : Value F) == w) = true ↔ integer i = w := by
  change beq _ _ = true ↔ _
  cases w <;> simp [beq]

theorem number_beq_iff {x : Float} :
    ((number x : Value F) == w) = true ↔ ∃ y, w = .number y ∧ (x == y) = true := by
  change beq _ _ = true ↔ _
  cases w <;> simp [beq]

theorem str_beq_iff {s : String} : ((str s : Value F) == w) = true ↔ str s = w := by
  change beq _ _ = true ↔ _
  cases w <;> simp [beq]

theorem list_beq_iff {vs : List (Value F)} :
    ((list vs : Value F) == w) = true ↔
      ∃ ws, w = .list ws ∧ List.Forall₂ (fun v w => (v == w) = true) vs ws := by
  change beq _ _ = true ↔ _
  cases w <;> simp [beq, beqItems_iff]

theorem map_beq_iff {es : List (String × Value F)} :
    ((map es : Value F) == w) = true ↔
      ∃ fs, w = .map fs ∧ List.Forall₂ (fun e f => e.1 = f.1 ∧ (e.2 == f.2) = true) es fs := by
  change beq _ _ = true ↔ _
  cases w <;> simp [beq, beqEntries_iff]

theorem foreign_beq_iff {a : F.Item} :
    ((foreign a : Value F) == w) = true ↔ ∃ b, w = .foreign b ∧ (a == b) = true := by
  change beq _ _ = true ↔ _
  cases w <;> simp [beq]

/-- Equal values are identical, or two floats, two lists, two maps or two foreign items. -/
theorem cases_of_beq (h : (v == w) = true) :
    v = w ∨ (∃ x y, v = .number x ∧ w = .number y ∧ (x == y) = true) ∨
      (∃ vs ws, v = .list vs ∧ w = .list ws ∧ List.Forall₂ (fun v w => (v == w) = true) vs ws) ∨
      (∃ es fs, v = .map es ∧ w = .map fs ∧
        List.Forall₂ (fun e f => e.1 = f.1 ∧ (e.2 == f.2) = true) es fs) ∨
      ∃ a b, v = .foreign a ∧ w = .foreign b ∧ (a == b) = true := by
  cases v with
  | absent => exact .inl (absent_beq_iff.mp h)
  | bool b => exact .inl (bool_beq_iff.mp h)
  | integer i => exact .inl (integer_beq_iff.mp h)
  | number x =>
      obtain ⟨y, rfl, hxy⟩ := number_beq_iff.mp h
      exact .inr (.inl ⟨x, y, rfl, rfl, hxy⟩)
  | str s => exact .inl (str_beq_iff.mp h)
  | list vs =>
      obtain ⟨ws, rfl, hws⟩ := list_beq_iff.mp h
      exact .inr (.inr (.inl ⟨vs, ws, rfl, rfl, hws⟩))
  | map es =>
      obtain ⟨fs, rfl, hfs⟩ := map_beq_iff.mp h
      exact .inr (.inr (.inr (.inl ⟨es, fs, rfl, rfl, hfs⟩)))
  | foreign a =>
      obtain ⟨b, rfl, hab⟩ := foreign_beq_iff.mp h
      exact .inr (.inr (.inr (.inr ⟨a, b, rfl, rfl, hab⟩)))

/-- Induction over the reasons why two values are equal: what holds of equal values without others inside
them, and passes from the items of two lists and the entries of two maps, pair by pair, to the lists and
the maps, holds of all equal values. -/
@[elab_as_elim]
theorem inductionOnEquals {motive : ∀ v w : Value F, (v == w) = true → Prop}
    (absent : ∀ h, motive .absent .absent h) (bool : ∀ b h, motive (.bool b) (.bool b) h)
    (integer : ∀ i h, motive (.integer i) (.integer i) h)
    (number : ∀ x y h, (x == y) = true → motive (.number x) (.number y) h)
    (str : ∀ s h, motive (.str s) (.str s) h)
    (list : ∀ vs ws h, List.Forall₂ (fun v w => ∃ hvw, motive v w hvw) vs ws →
      motive (.list vs) (.list ws) h)
    (map : ∀ es fs h, List.Forall₂ (fun e f => e.1 = f.1 ∧ ∃ hef, motive e.2 f.2 hef) es fs →
      motive (.map es) (.map fs) h)
    (foreign : ∀ a b h, (a == b) = true → motive (.foreign a) (.foreign b) h)
    (v w : Value F) (h : (v == w) = true) : motive v w h := by
  induction v generalizing w with
  | absent => obtain rfl := absent_beq_iff.mp h; exact absent h
  | bool b => obtain rfl := bool_beq_iff.mp h; exact bool b h
  | integer i => obtain rfl := integer_beq_iff.mp h; exact integer i h
  | number x =>
      obtain ⟨y, rfl, hxy⟩ := number_beq_iff.mp h
      exact number x y h hxy
  | str s => obtain rfl := str_beq_iff.mp h; exact str s h
  | list vs ih =>
      obtain ⟨ws, rfl, hws⟩ := list_beq_iff.mp h
      refine list vs ws h (((List.forall₂_and_left _ _).mpr ⟨ih, hws⟩).imp ?_)
      exact fun v w hvw => ⟨hvw.2, hvw.1 w hvw.2⟩
  | map es ih =>
      obtain ⟨fs, rfl, hfs⟩ := map_beq_iff.mp h
      refine map es fs h (((List.forall₂_and_left _ _).mpr ⟨ih, hfs⟩).imp ?_)
      exact fun e f hef => ⟨hef.2.1, hef.2.2, hef.1 f.2 hef.2.2⟩
  | foreign a =>
      obtain ⟨b, rfl, hab⟩ := foreign_beq_iff.mp h
      exact foreign a b h hab

/-! ## Symmetry and transitivity -/

theorem beq_symm [F.Symmetric] (h : (v == w) = true) : (w == v) = true := by
  induction v, w, h using inductionOnEquals with
  | absent h => exact h
  | bool b h => exact h
  | integer i h => exact h
  | number x y _ hxy => exact number_beq_iff.mpr ⟨x, rfl, BEq.symm hxy⟩
  | str s h => exact h
  | list vs ws _ h => exact list_beq_iff.mpr ⟨vs, rfl, (h.imp fun v w hvw => hvw.2).flip⟩
  | map es fs _ h =>
      exact map_beq_iff.mpr ⟨es, rfl, (h.imp fun e f hef => ⟨hef.1.symm, hef.2.2⟩).flip⟩
  | foreign a b _ hab => exact foreign_beq_iff.mpr ⟨a, rfl, BEq.symm hab⟩

theorem beq_comm [F.Symmetric] (v w : Value F) : (v == w) = (w == v) :=
  Bool.eq_iff_iff.mpr ⟨beq_symm, beq_symm⟩

theorem beq_trans [F.PartialEquiv] {u : Value F} (h : (v == w) = true) (hu : (w == u) = true) :
    (v == u) = true := by
  induction v, w, h using inductionOnEquals generalizing u with
  | absent h => exact hu
  | bool b h => exact hu
  | integer i h => exact hu
  | number x y _ hxy =>
      obtain ⟨z, rfl, hyz⟩ := number_beq_iff.mp hu
      exact number_beq_iff.mpr ⟨z, rfl, BEq.trans hxy hyz⟩
  | str s h => exact hu
  | list vs ws _ h =>
      obtain ⟨us, rfl, hus⟩ := list_beq_iff.mp hu
      exact list_beq_iff.mpr ⟨us, rfl, forall₂_trans (fun v w u hvw => hvw.2) h hus⟩
  | map es fs _ h =>
      obtain ⟨gs, rfl, hgs⟩ := map_beq_iff.mp hu
      refine map_beq_iff.mpr ⟨gs, rfl, forall₂_trans (fun e f g hef hfg => ?_) h hgs⟩
      exact ⟨hef.1.trans hfg.1, hef.2.2 hfg.2⟩
  | foreign a b _ hab =>
      obtain ⟨c, rfl, hbc⟩ := foreign_beq_iff.mp hu
      exact foreign_beq_iff.mpr ⟨c, rfl, BEq.trans hab hbc⟩

instance [F.PartialEquiv] : PartialEquivBEq (Value F) where
  symm := beq_symm
  trans := beq_trans

/-! ## Values equal to themselves -/

/-- A value does not keep one that it is a part of from being equal to itself: it is neither a NaN nor a
foreign item that the comparison of its type tells from itself. -/
def IsSelfEqual (v : Value F) : Prop :=
  (∀ x, v = .number x → x.isNaN = false) ∧ ∀ item, v = .foreign item → (item == item) = true

theorem isSelfEqual_list (vs : List (Value F)) : (list vs).IsSelfEqual := ⟨nofun, nofun⟩

theorem isSelfEqual_map (es : List (String × Value F)) : (map es).IsSelfEqual := ⟨nofun, nofun⟩

/-- A value equals itself exactly if nothing inside it prevents that. -/
theorem beq_self_iff (v : Value F) : (v == v) = true ↔ ∀ u ∈ v.parts, u.IsSelfEqual := by
  induction v with
  | absent => simp [absent_beq_iff, parts, IsSelfEqual]
  | bool b => simp [bool_beq_iff, parts, IsSelfEqual]
  | integer i => simp [integer_beq_iff, parts, IsSelfEqual]
  | number x =>
      rw [number_beq_number, Number.beq_self_iff]
      simp [parts, IsSelfEqual]
  | str s => simp [str_beq_iff, parts, IsSelfEqual]
  | list vs ih =>
      have hitems : (list vs == list vs) = true ↔ ∀ v ∈ vs, (v == v) = true := by
        simp [list_beq_iff, List.forall₂_same]
      rw [hitems, forall_mem_parts_list, forall₂_congr ih]
      exact (and_iff_right (isSelfEqual_list vs)).symm
  | map es ih =>
      have hentries : (map es == map es) = true ↔ ∀ e ∈ es, (e.2 == e.2) = true := by
        simp [map_beq_iff, List.forall₂_same]
      rw [hentries, forall_mem_parts_map, forall₂_congr ih]
      exact (and_iff_right (isSelfEqual_map es)).symm
  | foreign a => simp [foreign_beq_iff, parts, IsSelfEqual]

/-! ## What equal values have in common -/

theorem isAbsent_eq_of_beq (h : (v == w) = true) : v.isAbsent = w.isAbsent := by
  obtain rfl | ⟨_, _, rfl, rfl, _⟩ | ⟨_, _, rfl, rfl, _⟩ | ⟨_, _, rfl, rfl, _⟩ | ⟨_, _, rfl, rfl, _⟩ :=
    cases_of_beq h <;> rfl

theorem text?_eq_of_beq (h : (v == w) = true) : v.text? = w.text? := by
  obtain rfl | ⟨_, _, rfl, rfl, _⟩ | ⟨_, _, rfl, rfl, _⟩ | ⟨_, _, rfl, rfl, _⟩ | ⟨_, _, rfl, rfl, _⟩ :=
    cases_of_beq h <;> rfl

/-- What is asked of the floats of equal values has one answer, if it has one for equal floats. -/
theorem map_number?_eq_of_beq {α : Type} {f g : Float → α}
    (hfg : ∀ x y, (x == y) = true → f x = g y) (h : (v == w) = true) :
    v.number?.map f = w.number?.map g := by
  obtain rfl | ⟨x, y, rfl, rfl, hxy⟩ | ⟨_, _, rfl, rfl, _⟩ | ⟨_, _, rfl, rfl, _⟩ |
    ⟨_, _, rfl, rfl, _⟩ := cases_of_beq h
  · cases v with
    | number x =>
        rw [number_beq_number] at h
        exact congrArg some (hfg x x h)
    | _ => rfl
  · exact congrArg some (hfg x y hxy)
  · rfl
  · rfl
  · rfl

/-- Equal values are of one type: any value is of the type of both or of neither. -/
theorem sameType_eq_of_beq (h : (v == w) = true) (u : Value F) : v.sameType u = w.sameType u := by
  obtain rfl | ⟨_, _, rfl, rfl, _⟩ | ⟨_, _, rfl, rfl, _⟩ | ⟨_, _, rfl, rfl, _⟩ | ⟨a, b, rfl, rfl, hab⟩ :=
    cases_of_beq h
  · rfl
  · cases u <;> rfl
  · cases u <;> rfl
  · cases u <;> rfl
  · cases u with
    | foreign c =>
        show (a.tag == c.tag) = (b.tag == c.tag)
        rw [Foreign.Item.tag_eq_of_beq hab]
    | _ => rfl

theorem sameType_comm (v w : Value F) : v.sameType w = w.sameType v := by
  cases v <;> cases w <;> first | rfl | exact BEq.comm

theorem sameType_self (v : Value F) : v.sameType v = true := by
  cases v with
  | foreign item => exact beq_self_eq_true item.tag
  | _ => rfl

end Value

end Criteria
