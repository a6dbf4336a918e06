/-
# Criteria.Predicate.Literal — what an equality test compares with

A literal is the right-hand side of an equality test. Texts and floats stand apart from the other
values because they are the ones that have accessors and a text of their own; `ofValue` sorts a value
into its place. `other` may hold any value, so a text or a float that is put there directly stays a
literal of its own kind: it accepts the same inputs but is rendered differently.

`test?` is the whole meaning: a literal accepts inputs of its own type only, and compares them.
-/
import Criteria.Value.Basic

namespace Criteria

/-- What an equality test compares with. -/
inductive Literal (F : Foreign) where
  | str (s : String)
  | number (x : Float)
  /-- Any other value. -/
  | other (value : Value F)

namespace Literal

variable {F : Foreign}

/-- The literal for a value. -/
def ofValue : Value F → Literal F
  | .str s => .str s
  | .number x => .number x
  | v => .other v

/-- The value that the literal stands for. -/
def toValue : Literal F → Value F
  | .str s => .str s
  | .number x => .number x
  | .other v => v

/-- Equality of literals: the same sort of literal over equal values. -/
def beq : Literal F → Literal F → Bool
  | .str s, .str t => s == t
  | .number x, .number y => x == y
  | .other v, .other w => v == w
  | _, _ => false

instance : BEq (Literal F) := ⟨beq⟩

/-- How the input compares with the literal; nothing if its type is not the literal's. -/
def test? (input : Value F) : Literal F → Option Bool
  | .str s => input.text?.map (· == s)
  | .number x => input.number?.map (· == x)
  | .other v => if v.sameType input then some (v == input) else none

theorem isSome_test? (l : Literal F) (input : Value F) :
    (l.test? input).isSome = l.toValue.sameType input := by
  cases l with
  | str s => rw [test?, Option.isSome_map, input.isSome_text? s, toValue]
  | number x => rw [test?, Option.isSome_map, input.isSome_number? x, toValue]
  | other v => rw [test?, toValue]; cases v.sameType input <;> rfl

@[simp] theorem toValue_ofValue (v : Value F) : (ofValue v).toValue = v := by
  cases v <;> rfl

end Literal

end Criteria
