/-
# Criteria.Value.Basic — the values that predicates are checked against

The type of an input is known only when a predicate is checked against it, so there is one type of
values with eight kinds, the last of them open (`Criteria.Value.Foreign`). Whole numbers and floats
are DIFFERENT kinds and never compare equal.

Maps hold their entries in ascending order of keys, each key once. `ofEntries` brings any list of
entries into that form — of several entries with one key the last stays — and every way of building a
map in this library goes through it.

Equality follows the structure. At a float it is the comparison of IEEE 754, so a NaN differs from
itself and the two zeros agree; at a foreign item it is the caller's comparison. It is therefore not
reflexive in general, and a `LawfulBEq` instance does not exist.
-/
import Criteria.Value.Foreign

namespace Criteria

/-- A value whose kind is known only at run time. -/
inductive Value (F : Foreign) where
  | absent
  | bool (b : Bool)
  | integer (i : Int64)
  | number (x : Float)
  | str (s : String)
  | list (items : List (Value F))
  /-- Values under keys, in ascending order of the keys. -/
  | map (entries : List (String × Value F))
  | foreign (item : F.Item)

instance {F : Foreign} : Inhabited (Value F) := ⟨.absent⟩

namespace Value

variable {F : Foreign}

/-- Induction over values: what holds of every value that has no others inside it, and passes from all
items to their list and from all values of entries to their map, holds of every value. -/
@[elab_as_elim, induction_eliminator]
theorem treeInduction {motive : Value F → Prop} (absent : motive .absent)
    (bool : ∀ b, motive (.bool b)) (integer : ∀ i, motive (.integer i))
    (number : ∀ x, motive (.number x)) (str : ∀ s, motive (.str s))
    (list : ∀ items, (∀ v ∈ items, motive v) → motive (.list items))
    (map : ∀ entries, (∀ e ∈ entries, motive e.2) → motive (.map entries))
    (foreign : ∀ item, motive (.foreign item)) (v : Value F) : motive v :=
  @Value.rec F motive (fun vs => ∀ v ∈ vs, motive v) (fun es => ∀ e ∈ es, motive e.2)
    (fun e => motive e.2) absent bool integer number str list map foreign (by simp)
    (fun v vs hv hvs => by simpa using ⟨hv, hvs⟩) (by simp)
    (fun e es he hes => List.forall_mem_cons.mpr ⟨he, hes⟩) (fun _ _ hv => hv) v

/-! ## Looking at a value -/

/-- Whether there is no value. -/
def isAbsent : Value F → Bool
  | .absent => true
  | _ => false

/-- The text, if the value is one. -/
def text? : Value F → Option String
  | .str s => some s
  | _ => none

/-- The float, if the value is one. -/
def number? : Value F → Option Float
  | .number x => some x
  | _ => none

/-- The foreign item, if the value is one. -/
def item? : Value F → Option F.Item
  | .foreign item => some item
  | _ => none

/-- Whether two values are of one type: the same kind and, for foreign values, the same type. -/
def sameType : Value F → Value F → Bool
  | .absent, .absent => true
  | .bool _, .bool _ => true
  | .integer _, .integer _ => true
  | .number _, .number _ => true
  | .str _, .str _ => true
  | .list _, .list _ => true
  | .map _, .map _ => true
  | .foreign a, .foreign b => a.sameType b
  | _, _ => false

theorem isSome_text? (v : Value F) (s : String) : v.text?.isSome = (str s).sameType v := by
  cases v <;> rfl

theorem isSome_number? (v : Value F) (x : Float) :
    v.number?.isSome = (number x).sameType v := by
  cases v <;> rfl

theorem number?_eq_none {v : Value F} (h : ∀ x, v ≠ .number x) : v.number? = none := by
  cases v with
  | number x => exact absurd rfl (h x)
  | _ => rfl

/-- The name of a value's type. -/
def typeName : Value F → String
  | .absent => "absent"
  | .bool _ => "bool"
  | .integer _ => "integer"
  | .number _ => "number"
  | .str _ => "string"
  | .list _ => "list"
  | .map _ => "map"
  | .foreign item => item.typeName

/-! ## Equality -/

mutual

/-- Equality of values, by structure. -/
def beq : Value F → Value F → Bool
  | .absent, .absent => true
  | .bool a, .bool b => a == b
  | .integer a, .integer b => a == b
  | .number a, .number b => a == b
  | .str a, .str b => a == b
  | .list a, .list b => beqItems a b
  | .map a, .map b => beqEntries a b
  | .foreign a, .foreign b => a == b
  | _, _ => false

/-- Equality of the items of two lists, position by position. -/
def beqItems : List (Value F) → List (Value F) → Bool
  | [], [] => true
  | v :: vs, w :: ws => beq v w && beqItems vs ws
  | _, _ => false

/-- Equality of the entries of two maps, position by position: equal keys over equal values. -/
def beqEntries : List (String × Value F) → List (String × Value F) → Bool
  | [], [] => true
  | (k, v) :: es, (l, w) :: fs => k == l && beq v w && beqEntries es fs
  | _, _ => false

end

instance : BEq (Value F) := ⟨beq⟩

theorem number_beq_number (x y : Float) : ((number x : Value F) == number y) = (x == y) := by
  change beq _ _ = _
  rw [beq]

theorem str_beq_str (s t : String) : ((str s : Value F) == str t) = (s == t) := by
  change beq _ _ = _
  rw [beq]

/-! ## Maps -/

/-- The entries with one more; an entry that has its key already is replaced. -/
def insertEntry (key : String) (value : Value F) :
    List (String × Value F) → List (String × Value F)
  | [] => [(key, value)]
  | (k, v) :: rest =>
    if key < k then (key, value) :: (k, v) :: rest
    else if key = k then (key, value) :: rest
    else (k, v) :: insertEntry key value rest

/-- The entries in ascending order of keys; the last of several entries with one key stays. -/
def sortEntries (entries : List (String × Value F)) : List (String × Value F) :=
  entries.foldl (fun sorted e => insertEntry e.1 e.2 sorted) []

/-- The map with the given entries; the last of several entries with one key stays. -/
def ofEntries (entries : List (String × Value F)) : Value F :=
  .map (sortEntries entries)

/-- Whether the keys of the entries ascend strictly. -/
def Ascending (entries : List (String × Value F)) : Prop :=
  entries.Pairwise fun e f => e.1 < f.1

mutual

/-- Whether every map of the value, at any depth, has its keys in strictly ascending order. -/
def WellFormed : Value F → Prop
  | .list items => WellFormedItems items
  | .map entries => Ascending entries ∧ WellFormedEntries entries
  | _ => True

/-- Whether every item of a list is well-formed. -/
def WellFormedItems : List (Value F) → Prop
  | [] => True
  | v :: vs => WellFormed v ∧ WellFormedItems vs

/-- Whether the value of every entry is well-formed. -/
def WellFormedEntries : List (String × Value F) → Prop
  | [] => True
  | (_, v) :: es => WellFormed v ∧ WellFormedEntries es

end

/-! ## Building values from plain data -/

/-- A value, or the absent one. -/
def ofOption : Option (Value F) → Value F
  | some v => v
  | none => .absent

end Value

end Criteria
