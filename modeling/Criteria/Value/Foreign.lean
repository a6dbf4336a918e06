/-
# Criteria.Value.Foreign — what comes from outside

Beside its own kinds of value the library lets a caller put in values of types of their own. The
caller says once which types there are: a `Foreign` family has a tag for every type and, for each tag,
the type itself, how two of its values compare, its name and the description of a value. The engine
that patterns are compiled with comes from outside as well.

An `Item` is a value of one of these types together with its tag. Items of different types are never
equal; within a type the caller's own comparison decides. Nothing is assumed of that comparison: it
may be partial, as it is for floats, and what needs it to be symmetric or transitive says so.
-/
import Criteria.Pattern.Standard

namespace Criteria

/-- A family of caller-defined types, and an engine for patterns. -/
structure Foreign where
  Tag : Type
  decideTag : DecidableEq Tag
  Carrier : Tag → Type
  /-- How two values of one type compare. -/
  same : (t : Tag) → Carrier t → Carrier t → Bool
  name : Tag → String
  describe : (t : Tag) → Carrier t → String
  engine : Pattern.Engine

instance (F : Foreign) : DecidableEq F.Tag := F.decideTag

/-- The family of a single type with a single value. -/
def Foreign.unit : Foreign where
  Tag := Unit
  decideTag := inferInstance
  Carrier _ := Unit
  same _ _ _ := true
  name _ := "unit"
  describe _ _ := "()"
  engine := .standard

/-- A value of one of the caller's types. -/
structure Foreign.Item (F : Foreign) where
  tag : F.Tag
  payload : F.Carrier tag

namespace Foreign.Item

variable {F : Foreign}

/-- Equality of items: the types agree and the comparison of that type holds. -/
def beq (a b : F.Item) : Bool :=
  if h : a.tag = b.tag then F.same b.tag (h ▸ a.payload) b.payload else false

instance : BEq F.Item := ⟨beq⟩

/-- Whether two items are of one type. -/
def sameType (a b : F.Item) : Bool := a.tag == b.tag

/-- The name of the item's type. -/
def typeName (a : F.Item) : String := F.name a.tag

/-- The description of the item. -/
def describe (a : F.Item) : String := F.describe a.tag a.payload

/-- The item as a value of the type behind `t`, if it is of that type. -/
def downcast? (a : F.Item) (t : F.Tag) : Option (F.Carrier t) :=
  if h : a.tag = t then some (h ▸ a.payload) else none

theorem beq_eq_false_of_tag_ne {a b : F.Item} (h : a.tag ≠ b.tag) : (a == b) = false := by
  show beq a b = false
  simp [beq, h]

theorem beq_mk (t : F.Tag) (x y : F.Carrier t) :
    ((⟨t, x⟩ : F.Item) == ⟨t, y⟩) = F.same t x y := by
  show beq _ _ = _
  simp [beq]

end Foreign.Item

end Criteria
