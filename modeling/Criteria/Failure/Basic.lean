/-
# Criteria.Failure.Basic — what can go wrong, as a tree

A failure never replaces a result: evaluation and rendering always answer, and attach a failure to
the answer when something on the way went wrong. There are two elementary failures, one for each of
the two activities, and one that bundles others:

* `typeMismatch` — a leaf was given an input whose type it does not accept (evaluation only);
* `unserializable` — a leaf holds a literal that has no text (rendering only);
* `aggregate` — the failures of several children, in the order in which they were visited.

Aggregates nest as deep as connectives do, so equality is decided by a recursion over the tree and
its lists (`beq`, `beqList`), and `beq_iff` says that it decides equality.
-/
import Criteria.Kind

namespace Criteria

/-- A failure attached to an answer. -/
inductive Failure where
  /-- The type of the input is not one that the leaf accepts. -/
  | typeMismatch
  /-- The failures of several children. -/
  | aggregate (failures : List Failure)
  /-- A leaf of this kind holds a literal, of the named type, that has no text. -/
  | unserializable (kind : Kind) (typeName : String)
  deriving Repr, Inhabited

namespace Failure

/-- Induction over failures: what holds of the elementary ones and passes from all failures of a bundle
to their aggregate holds of every failure. -/
@[elab_as_elim, induction_eliminator]
theorem treeInduction {motive : Failure → Prop} (typeMismatch : motive .typeMismatch)
    (aggregate : ∀ fs, (∀ f ∈ fs, motive f) → motive (.aggregate fs))
    (unserializable : ∀ kind typeName, motive (.unserializable kind typeName)) (f : Failure) :
    motive f :=
  @Failure.rec motive (fun fs => ∀ f ∈ fs, motive f) typeMismatch aggregate unserializable
    (by simp) (fun f fs hf hfs => by simpa using ⟨hf, hfs⟩) f

/-! ## Equality -/

mutual

/-- Equality of failures, node by node. -/
def beq : Failure → Failure → Bool
  | .typeMismatch, .typeMismatch => true
  | .aggregate fs, .aggregate gs => beqList fs gs
  | .unserializable k s, .unserializable l t => k == l && s == t
  | _, _ => false

/-- Equality of lists of failures, element by element. -/
def beqList : List Failure → List Failure → Bool
  | [], [] => true
  | f :: fs, g :: gs => beq f g && beqList fs gs
  | _, _ => false

end

mutual

theorem beq_iff : ∀ f g : Failure, beq f g = true ↔ f = g
  | .typeMismatch, .typeMismatch => by simp [beq]
  | .typeMismatch, .aggregate _ => by simp [beq]
  | .typeMismatch, .unserializable _ _ => by simp [beq]
  | .aggregate fs, .aggregate gs => by simp [beq, beqList_iff fs gs]
  | .aggregate _, .typeMismatch => by simp [beq]
  | .aggregate _, .unserializable _ _ => by simp [beq]
  | .unserializable _ _, .unserializable _ _ => by simp [beq]
  | .unserializable _ _, .typeMismatch => by simp [beq]
  | .unserializable _ _, .aggregate _ => by simp [beq]

theorem beqList_iff : ∀ fs gs : List Failure, beqList fs gs = true ↔ fs = gs
  | [], [] => by simp [beqList]
  | [], _ :: _ => by simp [beqList]
  | _ :: _, [] => by simp [beqList]
  | f :: fs, g :: gs => by simp [beqList, beq_iff f g, beqList_iff fs gs]

end

instance : DecidableEq Failure := fun f g =>
  decidable_of_iff (beq f g = true) (beq_iff f g)

/-! ## Looking into a failure -/

/-- Whether the failure is itself a type mismatch. -/
def isTypeMismatch : Failure → Bool
  | .typeMismatch => true
  | _ => false

/-- The bundled failures, if the failure is an aggregate. -/
def aggregated? : Failure → Option (List Failure)
  | .aggregate fs => some fs
  | _ => none

mutual

/-- Whether the failure is a type mismatch or holds one at any depth. -/
def containsTypeMismatch : Failure → Bool
  | .typeMismatch => true
  | .aggregate fs => anyTypeMismatch fs
  | .unserializable _ _ => false

/-- Whether some failure of the list is or holds a type mismatch. -/
def anyTypeMismatch : List Failure → Bool
  | [] => false
  | f :: fs => containsTypeMismatch f || anyTypeMismatch fs

end

mutual

/-- The chain of causes below a failure: an aggregate is caused by its first failure, which may have
a cause of its own; every other failure is a cause without one, and so is an empty aggregate. -/
def causes : Failure → List Failure
  | .aggregate fs => causesOfFirst fs
  | _ => []

/-- The first failure of a bundle, followed by its own causes. -/
def causesOfFirst : List Failure → List Failure
  | [] => []
  | f :: _ => f :: causes f

end

end Failure

end Criteria
