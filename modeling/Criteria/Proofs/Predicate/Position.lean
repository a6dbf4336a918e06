/-
# Criteria.Proofs.Predicate.Position — places in a predicate tree

Two nodes of a tree can be equal, so a node is told by its position: the numbers of the children on the
way down to it, the root being at the empty one. `at?` looks a position up, `ancestors` are the nodes
passed on the way.

`leaves` lists the leaves from left to right, each with its position. That the list is right is said
without it: it holds the positions at which there is a leaf (`mem_leaves_iff`), in the order in which
positions are compared number by number, so none of them twice (`pairwise_lt_leaves`).

`replaceAt` puts another predicate in the place of what is at a position.
-/
import Criteria.Predicate.Basic
import Mathlib.Data.List.Basic

namespace Criteria.Predicate

variable {F : Foreign}

/-! ## Looking up positions -/

/-- The node at a position; none if the tree does not reach so far. -/
def at? (p : Predicate F) : List Nat → Option (Predicate F)
  | [] => some p
  | i :: path => p.components[i]?.bind fun q => q.at? path

/-- The nodes above a position, from the root down. -/
def ancestors (p : Predicate F) : List Nat → List (Predicate F)
  | [] => []
  | i :: path => p :: p.components[i]?.elim [] fun q => q.ancestors path

/-- Whether the root is a join. -/
def isJoin : Predicate F → Bool
  | .join _ _ => true
  | _ => false

/-- How many joins there are above a position. -/
def joinsAbove (p : Predicate F) (path : List Nat) : Nat := (p.ancestors path).countP isJoin

/-- How many connectives there are above a position. -/
def connectivesAbove (p : Predicate F) (path : List Nat) : Nat :=
  (p.ancestors path).countP fun q => q.kind.isComposite

theorem at?_cons {p q : Predicate F} {i : Nat} (h : p.components[i]? = some q) (path : List Nat) :
    p.at? (i :: path) = q.at? path := by
  rw [at?, h, Option.bind_some]

theorem at?_cons_eq_some_iff {p q : Predicate F} {i : Nat} {path : List Nat} :
    p.at? (i :: path) = some q ↔ ∃ c, p.components[i]? = some c ∧ c.at? path = some q :=
  Option.bind_eq_some_iff

theorem joinsAbove_cons {p q : Predicate F} {i : Nat} (h : p.components[i]? = some q)
    (path : List Nat) :
    p.joinsAbove (i :: path) = q.joinsAbove path + if p.isJoin then 1 else 0 := by
  rw [joinsAbove, ancestors, h, List.countP_cons]
  rfl

theorem isComposite_kind_of_getElem? {p q : Predicate F} {i : Nat} (h : p.components[i]? = some q) :
    p.kind.isComposite = true := by
  cases p with
  | leaf t => cases h
  | negation p => rfl
  | join j ps => exact j.isComposite_kind

/-- Whatever is above a position is a connective, so there are as many as the position has numbers. -/
theorem connectivesAbove_eq_length {p q : Predicate F} {path : List Nat}
    (h : p.at? path = some q) : p.connectivesAbove path = path.length := by
  induction path generalizing p with
  | nil => rfl
  | cons i path ih =>
      obtain ⟨c, hc, hcq⟩ := at?_cons_eq_some_iff.mp h
      have hcount : c.connectivesAbove path = path.length := ih hcq
      rw [connectivesAbove, ancestors, hc, Option.elim_some, List.countP_cons,
        if_pos (isComposite_kind_of_getElem? hc), List.length_cons, ← hcount, connectivesAbove]

/-! ## Replacing what is at a position -/

/-- The predicate with another component in the place of the one with the given number, if there is
one. -/
def setComponent (p : Predicate F) (i : Nat) (c : Predicate F) : Predicate F :=
  match p with
  | .leaf t => .leaf t
  | .negation p => .negation (if i = 0 then c else p)
  | .join j ps => .join j (ps.set i c)

/-- The predicate with another one in the place of what is at a position; the predicate as it is, if the
tree does not reach so far. -/
def replaceAt (p : Predicate F) : List Nat → Predicate F → Predicate F
  | [], r => r
  | i :: path, r => p.components[i]?.elim p fun c => p.setComponent i (c.replaceAt path r)

theorem components_setComponent (p : Predicate F) (i : Nat) (c : Predicate F) :
    (p.setComponent i c).components = p.components.set i c := by
  cases p with
  | leaf t => rfl
  | negation p =>
      cases i with
      | zero => rfl
      | succ i => rfl
  | join j ps => rfl

theorem replaceAt_cons {p c : Predicate F} {i : Nat} (h : p.components[i]? = some c)
    (path : List Nat) (r : Predicate F) :
    p.replaceAt (i :: path) r = p.setComponent i (c.replaceAt path r) := by
  rw [replaceAt, h, Option.elim_some]

/-- After the replacement, the new predicate is at the position. -/
theorem at?_replaceAt {p q : Predicate F} {path : List Nat} (h : p.at? path = some q)
    (r : Predicate F) : (p.replaceAt path r).at? path = some r := by
  induction path generalizing p with
  | nil => rfl
  | cons i path ih =>
      obtain ⟨c, hc, hcq⟩ := at?_cons_eq_some_iff.mp h
      have hlen : i < p.components.length := (List.getElem?_eq_some_iff.mp hc).1
      have hnew : (p.setComponent i (c.replaceAt path r)).components[i]? =
          some (c.replaceAt path r) := by
        rw [components_setComponent, List.getElem?_set_self hlen]
      rw [replaceAt_cons hc, at?_cons hnew, ih hcq]

/-- A replacement further down is one in the predicate at a position above. -/
theorem replaceAt_append {p q : Predicate F} {above : List Nat} (h : p.at? above = some q)
    (below : List Nat) (r : Predicate F) :
    p.replaceAt (above ++ below) r = p.replaceAt above (q.replaceAt below r) := by
  induction above generalizing p with
  | nil =>
      obtain rfl : p = q := Option.some.inj h
      rfl
  | cons i above ih =>
      obtain ⟨c, hc, hcq⟩ := at?_cons_eq_some_iff.mp h
      rw [List.cons_append, replaceAt_cons hc, replaceAt_cons hc, ih hcq]

/-! ## Leaves -/

mutual

/-- The leaves of a predicate from left to right, each with its position. -/
def leaves : Predicate F → List (List Nat × Test F)
  | .leaf t => [([], t)]
  | .negation p => (leaves p).map fun l => (0 :: l.1, l.2)
  | .join _ ps => leavesFrom 0 ps

/-- The leaves of the children of a node, numbered from `i` on. -/
def leavesFrom (i : Nat) : List (Predicate F) → List (List Nat × Test F)
  | [] => []
  | p :: ps => ((leaves p).map fun l => (i :: l.1, l.2)) ++ leavesFrom (i + 1) ps

end

/-- A node is a leaf, or its leaves are those of its children. -/
theorem eq_leaf_or_leaves_eq (p : Predicate F) :
    (∃ t, p = .leaf t) ∨ (∀ t, p ≠ .leaf t) ∧ p.leaves = leavesFrom 0 p.components := by
  cases p with
  | leaf t => exact Or.inl ⟨t, rfl⟩
  | negation p => exact Or.inr ⟨nofun, (List.append_nil _).symm⟩
  | join j ps => exact Or.inr ⟨nofun, rfl⟩

theorem mem_leavesFrom_iff {i : Nat} {ps : List (Predicate F)} {path : List Nat} {t : Test F} :
    (path, t) ∈ leavesFrom i ps ↔
      ∃ k rest q, path = (i + k) :: rest ∧ ps[k]? = some q ∧ (rest, t) ∈ q.leaves := by
  induction ps generalizing i with
  | nil => simp [leavesFrom]
  | cons p ps ih =>
      rw [leavesFrom, List.mem_append, ih, List.mem_map]
      constructor
      · rintro (⟨l, hl, heq⟩ | ⟨k, rest, q, rfl, hq, hrest⟩)
        · obtain ⟨rfl, rfl⟩ := Prod.mk.inj heq
          exact ⟨0, l.1, p, rfl, rfl, hl⟩
        · have hk : i + 1 + k = i + (k + 1) := by omega
          exact ⟨k + 1, rest, q, by rw [hk], hq, hrest⟩
      · rintro ⟨k, rest, q, rfl, hq, hrest⟩
        cases k with
        | zero =>
            obtain rfl : p = q := Option.some.inj hq
            exact Or.inl ⟨(rest, t), hrest, rfl⟩
        | succ k =>
            have hk : i + (k + 1) = i + 1 + k := by omega
            exact Or.inr ⟨k, rest, q, by rw [hk], hq, hrest⟩

/-- The leaves are what is at the positions at which there is a leaf. -/
theorem mem_leaves_iff (p : Predicate F) (path : List Nat) (t : Test F) :
    (path, t) ∈ p.leaves ↔ p.at? path = some (.leaf t) := by
  induction path generalizing p with
  | nil =>
      rcases p.eq_leaf_or_leaves_eq with ⟨s, rfl⟩ | ⟨hne, hleaves⟩
      · simp [leaves, at?, eq_comm]
      · rw [hleaves, mem_leavesFrom_iff]
        constructor
        · rintro ⟨_, _, _, heq, _⟩
          cases heq
        · intro h
          exact absurd (Option.some.inj h) (hne t)
  | cons i path ih =>
      rcases p.eq_leaf_or_leaves_eq with ⟨s, rfl⟩ | ⟨_, hleaves⟩
      · simp [leaves, at?, components]
      · rw [hleaves, mem_leavesFrom_iff, at?_cons_eq_some_iff]
        constructor
        · rintro ⟨k, rest, q, heq, hq, hrest⟩
          obtain ⟨rfl, rfl⟩ := List.cons.inj heq
          rw [Nat.zero_add]
          exact ⟨q, hq, (ih q).mp hrest⟩
        · rintro ⟨q, hq, hrest⟩
          exact ⟨i, path, q, by rw [Nat.zero_add], hq, (ih q).mpr hrest⟩

/-- Leaves of children ascend if those of each child do. -/
theorem pairwise_lt_leavesFrom {ps : List (Predicate F)}
    (ih : ∀ p ∈ ps, p.leaves.Pairwise fun l m => l.1 < m.1) :
    ∀ i, (leavesFrom i ps).Pairwise fun l m => l.1 < m.1 := by
  induction ps with
  | nil => exact fun _ => .nil
  | cons p ps ihps =>
      intro i
      rw [List.forall_mem_cons] at ih
      rw [leavesFrom, List.pairwise_append]
      refine ⟨?_, ihps ih.2 (i + 1), ?_⟩
      · rw [List.pairwise_map]
        exact ih.1.imp fun h => List.cons_lt_cons_iff.mpr (Or.inr ⟨rfl, h⟩)
      · -- the number of the child decides
        rintro l hl ⟨path, t⟩ hm
        obtain ⟨l', _, rfl⟩ := List.mem_map.mp hl
        obtain ⟨k, rest, _, rfl, _, _⟩ := mem_leavesFrom_iff.mp hm
        exact List.cons_lt_cons_iff.mpr (Or.inl (by omega))

/-- From left to right the positions of leaves ascend. -/
theorem pairwise_lt_leaves (p : Predicate F) : p.leaves.Pairwise fun l m => l.1 < m.1 := by
  induction p with
  | leaf t => exact List.pairwise_singleton _ _
  | negation p ih =>
      rw [leaves, List.pairwise_map]
      exact ih.imp fun h => List.cons_lt_cons_iff.mpr (Or.inr ⟨rfl, h⟩)
  | join j ps ih => exact pairwise_lt_leavesFrom ih 0

end Criteria.Predicate
