/-
# Criteria.Proofs.Predicate.Rebuilding — builders undo what accessors do

A caller cannot look at the constructors of a predicate. What can be asked of a node is its kind, the text,
the float or the literal that it tests for, and its components. This is enough to make the predicate again:
`rebuild?` asks these questions of a node, rebuilds the components, and calls the builder of the kind. It may
fail, for an answer that the builder needs can be missing, the source of a pattern might not be well-formed,
and a connective may have too few components or too many.

It fails on nothing that was built, and gives back the identical predicate. The normal form is what this
rests on: `not` puts a negation on what has none, but would take one off a component that is itself a
negation. On the other hand all that `rebuild?` gives back was made by builders, so being rebuilt, too, is a
way of saying that a predicate is built.
-/
import Criteria.Proofs.Predicate.NormalForm

namespace Criteria.Predicate

variable {F : Foreign} {p : Predicate F}

/-! ## What a node says of itself -/

/-- What the accessors of a node answer, the one for its components left out. -/
structure Particulars (F : Foreign) where
  kind : Kind
  /-- The text that it tests for, if there is one. -/
  text? : Option String
  /-- The float that it tests for, if there is one. -/
  number? : Option Float
  /-- The literal that it tests for, if there is one. -/
  literal? : Option (Literal F)

/-- The particulars of the root. -/
def particulars (p : Predicate F) : Particulars F := ⟨p.kind, p.text?, p.number?, p.literal?⟩

/-! ## Making a predicate again -/

/-- The join of all predicates of a list, if there are two or more. -/
def joinOf? (j : Join) : List (Predicate F) → Option (Predicate F)
  | p :: q :: rest => some (joinOf j p q rest)
  | _ => none

/-- The negation of the only predicate of a list. -/
def notOf? : List (Predicate F) → Option (Predicate F)
  | [p] => some p.not
  | _ => none

/-- What the builder of the kind makes of the other particulars or, for a connective, of its parts. -/
def Particulars.build? (a : Particulars F) (parts : List (Predicate F)) : Option (Predicate F) :=
  match a.kind with
  | .undefined => none
  | .existence => some existence
  | .equals => a.literal?.map equalsLiteral
  | .lessThan => a.number?.map lessThan
  | .beginsWith => a.text?.map beginsWith
  | .endsWith => a.text?.map endsWith
  | .contains => a.text?.map contains
  | .pattern => a.text?.bind matching?
  | .conjunction => joinOf? .all parts
  | .disjunction => joinOf? .any parts
  | .negation => notOf? parts

theorem sizeOf_lt_of_mem_components {c : Predicate F} (h : c ∈ p.components) :
    sizeOf c < sizeOf p := by
  cases p with
  | leaf t => cases h
  | negation p =>
      rw [List.mem_singleton.mp h, negation.sizeOf_spec]
      omega
  | join j ps =>
      have hlt : sizeOf c < sizeOf ps := List.sizeOf_lt_of_mem h
      rw [join.sizeOf_spec]
      omega

/-- The predicate made again from its leaves up, with nothing of it known but what the accessors answer. -/
def rebuild? (p : Predicate F) : Option (Predicate F) := do
  let parts ← p.components.attach.mapM fun c => rebuild? c.1
  p.particulars.build? parts
termination_by p
decreasing_by exact sizeOf_lt_of_mem_components c.2

theorem rebuild?_eq (p : Predicate F) :
    p.rebuild? = (p.components.mapM rebuild?).bind p.particulars.build? := by
  have hattach : (p.components.attach.mapM fun c => c.1.rebuild?) =
      (p.components.mapM rebuild? : Option (List (Predicate F))) := by
    rw [List.mapM_subtype fun _ _ => rfl, List.unattach_attach]
  rw [rebuild?, hattach]
  rfl

/-! ## Functions that may fail, on all members of a list -/

/-- A function that gives back every member of a list unchanged gives back the list. -/
theorem mapM_eq_some_self {α : Type} {f : α → Option α} {as : List α}
    (h : ∀ a ∈ as, f a = some a) : as.mapM f = some as := by
  induction as with
  | nil => rfl
  | cons a as ih =>
      rw [List.forall_mem_cons] at h
      rw [List.mapM_cons, h.1, ih h.2]
      rfl

theorem exists_mem_of_mapM_eq_some {α β : Type} {f : α → Option β} {as : List α} {bs : List β}
    (h : as.mapM f = some bs) : ∀ b ∈ bs, ∃ a ∈ as, f a = some b := by
  induction as generalizing bs with
  | nil =>
      cases h
      exact nofun
  | cons a as ih =>
      rw [List.mapM_cons] at h
      obtain ⟨b, hb, h⟩ := Option.bind_eq_some_iff.mp h
      obtain ⟨cs, hcs, h⟩ := Option.bind_eq_some_iff.mp h
      cases h
      rw [List.forall_mem_cons]
      refine ⟨⟨a, List.mem_cons_self, hb⟩, fun c hc => ?_⟩
      obtain ⟨d, hd, hdc⟩ := ih hcs c hc
      exact ⟨d, List.mem_cons_of_mem _ hd, hdc⟩

/-! ## What is built is rebuilt -/

theorem joinOf?_eq_join {j : Join} {ps : List (Predicate F)} (h : 2 ≤ ps.length) :
    joinOf? j ps = some (join j ps) := by
  cases ps with
  | nil => exact absurd h (by simp)
  | cons p ps =>
      cases ps with
      | nil => exact absurd h (by simp)
      | cons q rest => rfl

/-- At a node in normal form the builder makes the node of its particulars and components. -/
theorem NormalNode.build?_eq (h : p.NormalNode) :
    p.particulars.build? p.components = some p := by
  cases p with
  | leaf t =>
      cases t with
      | pattern pattern =>
          show matching? pattern.source = some _
          rw [matching?, Pattern.compile?_source, Option.map_some]
      | _ => rfl
  | negation p => exact congrArg some (not_eq_negation (normalNode_negation_iff.mp h))
  | join j ps =>
      have hjoin : joinOf? j ps = some (.join j ps) := joinOf?_eq_join (normalNode_join_iff.mp h)
      cases j with
      | all => exact hjoin
      | any => exact hjoin

theorem NormalNode.rebuild?_eq_some (h : p.NormalNode)
    (hcomponents : ∀ c ∈ p.components, c.rebuild? = some c) : p.rebuild? = some p := by
  rw [rebuild?_eq, mapM_eq_some_self hcomponents, Option.bind_some, h.build?_eq]

/-- A normal form is rebuilt, and so is everything below it. -/
theorem Normal.rebuild?_eq_some (h : p.Normal) : ∀ q ∈ p.nodes, q.rebuild? = some q := by
  induction p using rebuild?.induct with
  | case1 p ih =>
      obtain ⟨hnode, hcomponents⟩ := normal_iff.mp h
      have hbelow : ∀ c ∈ p.components, ∀ q ∈ c.nodes, q.rebuild? = some q :=
        fun c hc => ih ⟨c, hc⟩ (hcomponents c hc)
      rw [nodes_eq_cons, List.forall_mem_cons, List.forall_mem_flatMap]
      exact ⟨hnode.rebuild?_eq_some fun c hc => hbelow c hc c c.mem_nodes_self, hbelow⟩

/-! ## What is rebuilt is built -/

theorem built_of_map_leaf {α : Type} {answer? : Option α} (test : α → Test F)
    (h : answer?.map (fun a => leaf (test a)) = some p) : p.Built := by
  obtain ⟨a, _, rfl⟩ := Option.map_eq_some_iff.mp h
  exact built_leaf (test a)

theorem built_of_joinOf? {j : Join} {parts : List (Predicate F)} (h : joinOf? j parts = some p)
    (hparts : ∀ r ∈ parts, r.Built) : p.Built := by
  cases parts with
  | nil => cases h
  | cons r parts =>
      cases parts with
      | nil => cases h
      | cons s rest =>
          cases h
          rw [List.forall_mem_cons, List.forall_mem_cons] at hparts
          exact .joinOf j hparts.1 hparts.2.1 hparts.2.2

theorem built_of_notOf? {parts : List (Predicate F)} (h : notOf? parts = some p)
    (hparts : ∀ r ∈ parts, r.Built) : p.Built := by
  cases parts with
  | nil => cases h
  | cons r rest =>
      cases rest with
      | nil =>
          cases h
          exact .not (hparts r (List.mem_singleton_self r))
      | cons s rest => cases h

theorem Particulars.built_of_build? {a : Particulars F} {parts : List (Predicate F)}
    (h : a.build? parts = some p) (hparts : ∀ r ∈ parts, r.Built) : p.Built := by
  obtain ⟨kind, text?, number?, literal?⟩ := a
  cases kind with
  | undefined => cases h
  | existence =>
      cases h
      exact .existence
  | equals => exact built_of_map_leaf .equals h
  | lessThan => exact built_of_map_leaf .lessThan h
  | beginsWith => exact built_of_map_leaf .beginsWith h
  | endsWith => exact built_of_map_leaf .endsWith h
  | contains => exact built_of_map_leaf .contains h
  | pattern =>
      obtain ⟨source, _, hsource⟩ := Option.bind_eq_some_iff.mp h
      exact .matching hsource
  | conjunction => exact built_of_joinOf? h hparts
  | disjunction => exact built_of_joinOf? h hparts
  | negation => exact built_of_notOf? h hparts

theorem built_of_rebuild? (p : Predicate F) : ∀ q, p.rebuild? = some q → q.Built := by
  induction p using rebuild?.induct with
  | case1 p ih =>
      intro q h
      rw [rebuild?_eq] at h
      obtain ⟨parts, hparts, h⟩ := Option.bind_eq_some_iff.mp h
      refine Particulars.built_of_build? h fun r hr => ?_
      obtain ⟨c, hc, hcr⟩ := exists_mem_of_mapM_eq_some hparts r hr
      exact ih ⟨c, hc⟩ r hcr

/-- **The builders undo what the accessors do.** A predicate is built exactly if each of its nodes can be
rebuilt from the answers of the accessors alone and comes out as the identical tree. -/
theorem built_iff_rebuilt (p : Predicate F) : p.Built ↔ ∀ q ∈ p.nodes, q.rebuild? = some q :=
  ⟨fun h => h.normal.rebuild?_eq_some, fun h => built_of_rebuild? p p (h p p.mem_nodes_self)⟩

/-- Of a negation below a negation only what is below both comes out. -/
example : (negation (negation existence) : Predicate .unit).rebuild? = some existence := by
  cbv

end Criteria.Predicate
