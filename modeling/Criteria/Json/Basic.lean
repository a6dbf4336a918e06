/-
# Criteria.Json.Basic — JSON documents as trees

A whole number that fits 64 bits, with or without a sign, is kept apart from a float; every other
number is a float. An object keeps its members in the order of the document, repeated keys included.
-/

namespace Criteria

/-- A JSON document. -/
inductive Json where
  | null
  | bool (b : Bool)
  /-- A whole number of 64 bits. -/
  | integer (i : Int)
  /-- Any other number. -/
  | float (x : Float)
  | str (s : String)
  | arr (items : List Json)
  | obj (members : List (String × Json))

instance : Inhabited Json := ⟨.null⟩

/-- Induction over documents: what holds of every document that has no others inside it, and passes from
all items to their array and from the documents of all members to their object, holds of every document. -/
@[elab_as_elim, induction_eliminator]
theorem Json.treeInduction {motive : Json → Prop} (null : motive .null)
    (bool : ∀ b, motive (.bool b)) (integer : ∀ i, motive (.integer i))
    (float : ∀ x, motive (.float x)) (str : ∀ s, motive (.str s))
    (arr : ∀ items, (∀ j ∈ items, motive j) → motive (.arr items))
    (obj : ∀ members, (∀ m ∈ members, motive m.2) → motive (.obj members)) (j : Json) : motive j :=
  @Json.rec motive (fun js => ∀ j ∈ js, motive j) (fun ms => ∀ m ∈ ms, motive m.2)
    (fun m => motive m.2) null bool integer float str arr obj (by simp)
    (fun _ _ hj hjs => List.forall_mem_cons.mpr ⟨hj, hjs⟩) (by simp)
    (fun _ _ hm hms => List.forall_mem_cons.mpr ⟨hm, hms⟩) (fun _ _ hj => hj) j

end Criteria
