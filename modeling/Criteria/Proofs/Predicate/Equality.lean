/-
# Criteria.Proofs.Predicate.Equality — predicates that compare equal

Equal predicates have the same shape, and their leaves are the same tests but for two sorts of arguments
whose equality is not identity: floats, and values. So wherever two equal tests are looked at, they are
identical, or equalities with equal literals, or bounds that are equal floats (`Test.cases_of_beq`).

Equality is a congruence: of equal predicates, every check of equal values has the same verdict with the
same failure, and every rendering fails in the same way. One thing about a predicate is not respected,
its text: the two zeros are equal floats and are written with their signs.
-/
import Criteria.Proofs.Evaluation.Eager
import Criteria.Proofs.Rendering.Holes
import Criteria.Proofs.Value.Equality

namespace Criteria

variable {F : Foreign}

/-! ## Literals -/

namespace Literal

variable {l m n : Literal F}

theorem number_beq (x y : Float) : ((number x : Literal F) == number y) = (x == y) := rfl

theorem other_beq (v w : Value F) : ((other v : Literal F) == other w) = (v == w) := rfl

/-- Equal literals are the same text, equal floats or equal values. -/
theorem cases_of_beq (h : (l == m) = true) :
    (∃ s, l = .str s ∧ m = .str s) ∨
      (∃ x y, l = .number x ∧ m = .number y ∧ (x == y) = true) ∨
        ∃ v w, l = .other v ∧ m = .other w ∧ (v == w) = true := by
  change l.beq m = true at h
  cases l with
  | str s =>
      cases m with
      | str t => exact .inl ⟨s, rfl, by rw [eq_of_beq h]⟩
      | _ => cases h
  | number x =>
      cases m with
      | number y => exact .inr (.inl ⟨x, y, rfl, rfl, h⟩)
      | _ => cases h
  | other v =>
      cases m with
      | other w => exact .inr (.inr ⟨v, w, rfl, rfl, h⟩)
      | _ => cases h

instance [F.PartialEquiv] : PartialEquivBEq (Literal F) where
  symm := by
    intro l m h
    obtain ⟨s, rfl, rfl⟩ | ⟨x, y, rfl, rfl, hxy⟩ | ⟨v, w, rfl, rfl, hvw⟩ := cases_of_beq h
    · exact h
    · exact (BEq.symm hxy : (y == x) = true)
    · exact (BEq.symm hvw : (w == v) = true)
  trans := by
    intro l m n hlm hmn
    obtain ⟨s, rfl, rfl⟩ | ⟨x, y, rfl, rfl, hxy⟩ | ⟨v, w, rfl, rfl, hvw⟩ := cases_of_beq hlm
    · exact hmn
    · obtain ⟨_, hs, _⟩ | ⟨_, z, hy, rfl, hyz⟩ | ⟨_, _, hv, _⟩ := cases_of_beq hmn
      · cases hs
      · cases hy
        exact (BEq.trans hxy hyz : (x == z) = true)
      · cases hv
    · obtain ⟨_, hs, _⟩ | ⟨_, _, hx, _⟩ | ⟨_, u, hw, rfl, hwu⟩ := cases_of_beq hmn
      · cases hs
      · cases hx
      · cases hw
        exact (BEq.trans hvw hwu : (v == u) = true)

/-- A literal equals itself exactly if its value does. -/
theorem beq_self_iff (l : Literal F) :
    (l == l) = true ↔ ∀ u ∈ l.toValue.parts, u.IsSelfEqual := by
  rw [← Value.beq_self_iff]
  cases l with
  | str s => exact iff_of_true (beq_self_eq_true s) (Value.str_beq_iff.mpr rfl)
  | number x => rw [number_beq, toValue, Value.number_beq_number]
  | other v => rw [other_beq, toValue]

/-- Equal literals test equal values with the same answer. -/
theorem test?_congr [F.PartialEquiv] {v w : Value F} (hl : (l == m) = true)
    (hv : (v == w) = true) : l.test? v = m.test? w := by
  obtain ⟨s, rfl, rfl⟩ | ⟨x, y, rfl, rfl, hxy⟩ | ⟨a, b, rfl, rfl, hab⟩ := cases_of_beq hl
  · rw [test?, test?, Value.text?_eq_of_beq hv]
  · exact Value.map_number?_eq_of_beq (fun z u hzu => Number.beq_congr hzu hxy) hv
  · rw [test?, test?, Value.sameType_eq_of_beq hab, Value.sameType_comm b v,
      Value.sameType_eq_of_beq hv, Value.sameType_comm w b, BEq.congr_left hab, BEq.congr_right hv]

/-- Equal values have the same text, or lack one alike. -/
theorem render_other_congr {v w : Value F} (h : (v == w) = true) :
    (other v).render = (other w).render := by
  obtain rfl | ⟨_, _, rfl, rfl, _⟩ | ⟨_, _, rfl, rfl, _⟩ | ⟨_, _, rfl, rfl, _⟩ | ⟨a, b, rfl, rfl, hab⟩ :=
    Value.cases_of_beq h
  · rfl
  · rfl
  · rfl
  · rfl
  · have hname : a.typeName = b.typeName := congrArg F.name (Foreign.Item.tag_eq_of_beq hab)
    exact congrArg (fun name => Outcome.failed ("<" ++ name ++ ">") (.unserializable .equals name))
      hname

/-- Equal literals other than the zeros are rendered alike. -/
theorem render_congr (h : (l == m) = true) (hzero : ∀ x, l = .number x → (x == 0) = false) :
    l.render = m.render := by
  obtain ⟨s, rfl, rfl⟩ | ⟨x, y, rfl, rfl, hxy⟩ | ⟨v, w, rfl, rfl, hvw⟩ := cases_of_beq h
  · rfl
  · rw [Number.eq_of_beq_of_ne_zero hxy (hzero x rfl)]
  · exact render_other_congr hvw

/-- Equal literals fail alike where they have no text. -/
theorem render_failure_congr (h : (l == m) = true) : l.render.failure = m.render.failure := by
  obtain ⟨s, rfl, rfl⟩ | ⟨x, y, rfl, rfl, _⟩ | ⟨v, w, rfl, rfl, hvw⟩ := cases_of_beq h
  · rfl
  · rfl
  · rw [render_other_congr hvw]

end Literal

/-! ## Tests -/

namespace Test

variable {s t u : Test F}

theorem equals_beq (l m : Literal F) : ((equals l : Test F) == equals m) = (l == m) := rfl

theorem lessThan_beq (x y : Float) : ((lessThan x : Test F) == lessThan y) = (x == y) := rfl

/-- Equal tests are identical, or equalities with equal literals, or bounds that are equal floats. -/
theorem cases_of_beq (h : (s == t) = true) :
    s = t ∨ (∃ l m, s = .equals l ∧ t = .equals m ∧ (l == m) = true) ∨
      ∃ x y, s = .lessThan x ∧ t = .lessThan y ∧ (x == y) = true := by
  change s.beq t = true at h
  cases s with
  | existence =>
      cases t with
      | existence => exact .inl rfl
      | _ => cases h
  | equals l =>
      cases t with
      | equals m => exact .inr (.inl ⟨l, m, rfl, rfl, h⟩)
      | _ => cases h
  | lessThan x =>
      cases t with
      | lessThan y => exact .inr (.inr ⟨x, y, rfl, rfl, h⟩)
      | _ => cases h
  | beginsWith a =>
      cases t with
      | beginsWith b => exact .inl (congrArg beginsWith (eq_of_beq h))
      | _ => cases h
  | endsWith a =>
      cases t with
      | endsWith b => exact .inl (congrArg endsWith (eq_of_beq h))
      | _ => cases h
  | contains a =>
      cases t with
      | contains b => exact .inl (congrArg contains (eq_of_beq h))
      | _ => cases h
  | pattern p =>
      cases t with
      | pattern q => exact .inl (congrArg pattern (eq_of_beq h))
      | _ => cases h

instance [F.PartialEquiv] : PartialEquivBEq (Test F) where
  symm := by
    intro s t h
    obtain rfl | ⟨l, m, rfl, rfl, hlm⟩ | ⟨x, y, rfl, rfl, hxy⟩ := cases_of_beq h
    · exact h
    · exact (BEq.symm hlm : (m == l) = true)
    · exact (BEq.symm hxy : (y == x) = true)
  trans := by
    intro s t u hst htu
    obtain rfl | ⟨l, m, rfl, rfl, hlm⟩ | ⟨x, y, rfl, rfl, hxy⟩ := cases_of_beq hst
    · exact htu
    · obtain rfl | ⟨_, n, hm, rfl, hmn⟩ | ⟨_, _, hx, _⟩ := cases_of_beq htu
      · exact hst
      · cases hm
        exact (BEq.trans hlm hmn : (l == n) = true)
      · cases hx
    · obtain rfl | ⟨_, _, hl, _⟩ | ⟨_, z, hy, rfl, hyz⟩ := cases_of_beq htu
      · exact hst
      · cases hl
      · cases hy
        exact (BEq.trans hxy hyz : (x == z) = true)

/-- Equal tests give equal values the same answer. -/
theorem result?_congr [F.PartialEquiv] {v w : Value F} (ht : (s == t) = true)
    (hv : (v == w) = true) : s.result? v = t.result? w := by
  obtain rfl | ⟨l, m, rfl, rfl, hlm⟩ | ⟨x, y, rfl, rfl, hxy⟩ := cases_of_beq ht
  · cases s with
    | existence => rw [result?, result?, Value.isAbsent_eq_of_beq hv]
    | equals l => exact Literal.test?_congr ht hv
    | lessThan x =>
        refine Value.map_number?_eq_of_beq (fun z u hzu => ?_) hv
        exact decide_eq_decide.mpr (Number.lt_congr hzu ht)
    | _ => rw [result?, result?, Value.text?_eq_of_beq hv]
  · exact Literal.test?_congr hlm hv
  · refine Value.map_number?_eq_of_beq (fun z u hzu => ?_) hv
    exact decide_eq_decide.mpr (Number.lt_congr hzu hxy)

/-- Equal tests fail alike when they are rendered. -/
theorem render_failure_congr (h : (s == t) = true) : s.render.failure = t.render.failure := by
  obtain rfl | ⟨l, m, rfl, rfl, hlm⟩ | ⟨x, y, rfl, rfl, _⟩ := cases_of_beq h
  · rfl
  · exact Literal.render_failure_congr hlm
  · rfl

end Test

/-! ## Predicates -/

namespace Predicate

variable {p q : Predicate F}

/-- Equal tests whose float, if they have one, is not zero are rendered alike. -/
theorem text_leaf_congr {s t : Test F} (h : (s == t) = true)
    (hzero : ∀ x, (leaf s).number? = some x → (x == 0) = false) :
    (leaf s).text = (leaf t).text := by
  obtain rfl | ⟨l, m, rfl, rfl, hlm⟩ | ⟨x, y, rfl, rfl, hxy⟩ := Test.cases_of_beq h
  · rfl
  · have hrender : l.render = m.render :=
      Literal.render_congr hlm fun x hx => hzero x (by rw [hx]; rfl)
    rw [text_leaf, text_leaf, Test.argument, Test.argument, hrender]
    rfl
  · rw [Number.eq_of_beq_of_ne_zero hxy (hzero x rfl)]

theorem beqAll_iff (ps qs : List (Predicate F)) :
    beqAll ps qs = true ↔ List.Forall₂ (fun p q => (p == q) = true) ps qs := by
  induction ps generalizing qs with
  | nil => cases qs <;> simp [beqAll]
  | cons p ps ih =>
      cases qs with
      | nil => simp [beqAll]
      | cons q qs =>
          rw [beqAll, Bool.and_eq_true, ih, List.forall₂_cons]
          rfl

theorem leaf_beq_iff {t : Test F} :
    (leaf t == q) = true ↔ ∃ s, q = .leaf s ∧ (t == s) = true := by
  change beq _ _ = true ↔ _
  cases q <;> simp [beq]

theorem negation_beq_iff :
    (negation p == q) = true ↔ ∃ c, q = .negation c ∧ (p == c) = true := by
  change beq _ _ = true ↔ _
  cases q with
  | negation c => simp [beq]; rfl
  | _ => simp [beq]

theorem join_beq_iff {j : Join} {ps : List (Predicate F)} :
    (join j ps == q) = true ↔
      ∃ qs, q = .join j qs ∧ List.Forall₂ (fun p q => (p == q) = true) ps qs := by
  change beq _ _ = true ↔ _
  cases q with
  | join i qs => simp [beq, beqAll_iff, eq_comm (a := i)]
  | _ => simp [beq]

/-- Induction over the reasons why two predicates are equal: what holds of leaves with equal tests, and
passes to negations and, child by child, to joins, holds of all equal predicates. -/
@[elab_as_elim]
theorem inductionOnEquals {motive : ∀ p q : Predicate F, (p == q) = true → Prop}
    (leaf : ∀ s t h, (s == t) = true → motive (.leaf s) (.leaf t) h)
    (negation : ∀ p q h hpq, motive p q hpq → motive (.negation p) (.negation q) h)
    (join : ∀ j ps qs h, List.Forall₂ (fun p q => ∃ hpq, motive p q hpq) ps qs →
      motive (.join j ps) (.join j qs) h)
    (p q : Predicate F) (h : (p == q) = true) : motive p q h := by
  induction p generalizing q with
  | leaf s =>
      obtain ⟨t, rfl, hst⟩ := leaf_beq_iff.mp h
      exact leaf s t h hst
  | negation p ih =>
      obtain ⟨q, rfl, hpq⟩ := negation_beq_iff.mp h
      exact negation p q h hpq (ih q hpq)
  | join j ps ih =>
      obtain ⟨qs, rfl, hqs⟩ := join_beq_iff.mp h
      refine join j ps qs h (((List.forall₂_and_left _ _).mpr ⟨ih, hqs⟩).imp ?_)
      exact fun p q hpq => ⟨hpq.2, hpq.1 q hpq.2⟩

instance [F.PartialEquiv] : PartialEquivBEq (Predicate F) where
  symm := by
    intro p q h
    induction p, q, h using inductionOnEquals with
    | leaf s t _ hst => exact leaf_beq_iff.mpr ⟨s, rfl, BEq.symm hst⟩
    | negation p q _ _ ih => exact negation_beq_iff.mpr ⟨p, rfl, ih⟩
    | join j ps qs _ ih => exact join_beq_iff.mpr ⟨ps, rfl, (ih.imp fun p q hpq => hpq.2).flip⟩
  trans := by
    intro p q r h hr
    induction p, q, h using inductionOnEquals generalizing r with
    | leaf s t _ hst =>
        obtain ⟨u, rfl, htu⟩ := leaf_beq_iff.mp hr
        exact leaf_beq_iff.mpr ⟨u, rfl, BEq.trans hst htu⟩
    | negation p q _ _ ih =>
        obtain ⟨r, rfl, hqr⟩ := negation_beq_iff.mp hr
        exact negation_beq_iff.mpr ⟨r, rfl, ih hqr⟩
    | join j ps qs _ ih =>
        obtain ⟨rs, rfl, hrs⟩ := join_beq_iff.mp hr
        exact join_beq_iff.mpr ⟨rs, rfl, forall₂_trans (fun p q r hpq => hpq.2) ih hrs⟩

/-! ## Predicates equal to themselves -/

/-- A node does not keep a predicate from being equal to itself: its float, if it has one, is a number,
and its literal, if it has one, equals itself. -/
def IsSelfEqual (p : Predicate F) : Prop :=
  (∀ x, p.number? = some x → x.isNaN = false) ∧
    ∀ l, p.literal? = some l → ∀ u ∈ l.toValue.parts, u.IsSelfEqual

theorem isSelfEqual_of_eq_none {p : Predicate F} (hnumber : p.number? = none)
    (hliteral : p.literal? = none) : p.IsSelfEqual := by
  constructor
  · intro x hx
    rw [hnumber] at hx
    cases hx
  · intro l hl
    rw [hliteral] at hl
    cases hl

theorem beq_self_leaf_iff (t : Test F) : (t == t) = true ↔ (leaf t).IsSelfEqual := by
  cases t with
  | equals l =>
      rw [Test.equals_beq, Literal.beq_self_iff]
      cases l with
      | number x => simp [IsSelfEqual, number?, literal?, Literal.toValue, Value.parts, Value.IsSelfEqual]
      | _ => simp [IsSelfEqual, number?, literal?]
  | lessThan x =>
      rw [Test.lessThan_beq, Number.beq_self_iff]
      simp [IsSelfEqual, number?, literal?]
  | existence => exact iff_of_true rfl (isSelfEqual_of_eq_none rfl rfl)
  | beginsWith s => exact iff_of_true (beq_self_eq_true s) (isSelfEqual_of_eq_none rfl rfl)
  | endsWith s => exact iff_of_true (beq_self_eq_true s) (isSelfEqual_of_eq_none rfl rfl)
  | contains s => exact iff_of_true (beq_self_eq_true s) (isSelfEqual_of_eq_none rfl rfl)
  | pattern p => exact iff_of_true (beq_self_eq_true p) (isSelfEqual_of_eq_none rfl rfl)

/-- A predicate equals itself exactly if no node prevents that. -/
theorem beq_self_iff (p : Predicate F) : (p == p) = true ↔ ∀ q ∈ p.nodes, q.IsSelfEqual := by
  induction p with
  | leaf t =>
      rw [leaf_beq_iff, nodes, List.forall_mem_singleton, ← beq_self_leaf_iff]
      simp
  | negation p ih =>
      have hchild : (negation p == negation p) = true ↔ (p == p) = true := by
        simp [negation_beq_iff]
      rw [hchild, nodes, List.forall_mem_cons, ih,
        and_iff_right (isSelfEqual_of_eq_none rfl rfl)]
  | join j ps ih =>
      have hchildren : (join j ps == join j ps) = true ↔ ∀ p ∈ ps, (p == p) = true := by
        simp [join_beq_iff, List.forall₂_same]
      rw [hchildren, nodes_eq_cons, List.forall_mem_cons, List.forall_mem_flatMap, components,
        forall₂_congr ih, and_iff_right (isSelfEqual_of_eq_none rfl rfl)]

/-! ## What equal predicates have in common -/

/-- Two functions agree on the children of equal predicates. -/
theorem map_eq_map_of_forall₂ {α : Type} {f g : Predicate F → α} {ps qs : List (Predicate F)}
    (h : List.Forall₂ (fun p q => f p = g q) ps qs) : ps.map f = qs.map g := by
  rwa [← List.forall₂_eq_eq_eq, List.forall₂_map_left_iff, List.forall₂_map_right_iff]

/-- Checks of equal values by equal predicates have the same verdict. -/
theorem check_congr [F.PartialEquiv] {v w : Value F} (hp : (p == q) = true)
    (hv : (v == w) = true) : p.check v = q.check w := by
  induction p, q, hp using inductionOnEquals with
  | leaf s t _ hst =>
      rw [check_leaf, check_leaf, Test.result?_congr hst hv]
  | negation p q _ _ ih => rw [check_negation, check_negation, ih]
  | join j ps qs _ ih =>
      rw [check_join_eq_settle, check_join_eq_settle,
        map_eq_map_of_forall₂ (ih.imp fun p q hpq => hpq.2)]

/-- Renderings of equal predicates fail alike. -/
theorem compact_failure_congr (h : (p == q) = true) : p.compact.failure = q.compact.failure := by
  induction p, q, h using inductionOnEquals with
  | leaf s t _ hst => exact Test.render_failure_congr hst
  | negation p q _ _ ih => rw [compact_negation_failure, compact_negation_failure, ih]
  | join j ps qs _ ih =>
      have hfailures : (ps.map fun p => p.compact.failure.toList) =
          qs.map fun q => q.compact.failure.toList :=
        map_eq_map_of_forall₂ (ih.imp fun p q hpq => congrArg Option.toList hpq.2)
      rw [compact_join_failure, compact_join_failure, List.flatMap_def, List.flatMap_def, hfailures]

/-- The float of a node, if it has one, is not a zero. -/
def HasNoZero (p : Predicate F) : Prop := ∀ x, p.number? = some x → (x == 0) = false

/-- A text that is put together from the texts of leaves, level by level, is the same for equal predicates
without a zero. -/
theorem text_congr_of_compositional {f : ℕ → Predicate F → String}
    (hleaf : ∀ depth s t, (leaf s).text = (leaf t).text → f depth (leaf s) = f depth (leaf t))
    (hnegation : ∀ depth p q, f (depth + 1) p = f (depth + 1) q →
      f depth (negation p) = f depth (negation q))
    (hjoin : ∀ depth j ps qs, ps.map (f (depth + 1)) = qs.map (f (depth + 1)) →
      f depth (join j ps) = f depth (join j qs))
    (depth : ℕ) (h : (p == q) = true) (hzero : ∀ r ∈ p.nodes, r.HasNoZero) :
    f depth p = f depth q := by
  induction p, q, h using inductionOnEquals generalizing depth with
  | leaf s t _ hst =>
      exact hleaf depth s t (text_leaf_congr hst (hzero _ (List.mem_singleton_self _)))
  | negation p q _ _ ih =>
      rw [nodes, List.forall_mem_cons] at hzero
      exact hnegation depth p q (ih _ hzero.2)
  | join j ps qs _ ih =>
      rw [nodes_eq_cons, List.forall_mem_cons, List.forall_mem_flatMap, components] at hzero
      refine hjoin depth j ps qs (map_eq_map_of_forall₂ ?_)
      refine ((List.forall₂_and_left _ _).mpr ⟨hzero.2, ih⟩).imp fun p q hpq => ?_
      exact hpq.2.2 _ hpq.1

theorem text_congr (h : (p == q) = true) (hzero : ∀ r ∈ p.nodes, r.HasNoZero) :
    p.text = q.text := by
  refine text_congr_of_compositional (f := fun _ p => p.text) (fun _ _ _ ht => ht) ?_ ?_ 0 h hzero
  · intro _ p q hpq
    rw [text_negation, text_negation, hpq]
  · intro _ j ps qs hps
    rw [text_join, text_join]
    exact congrArg (fun texts => callText j.kind (", ".intercalate texts)) hps

theorem lines_value_congr (l : Layout) (h : (p == q) = true)
    (hzero : ∀ r ∈ p.nodes, r.HasNoZero) : (p.lines l 0).value = (q.lines l 0).value := by
  refine text_congr_of_compositional (f := fun depth p => (p.lines l depth).value) ?_ ?_ ?_ 0 h hzero
  · intro depth s t ht
    rw [lines_leaf_value, lines_leaf_value, ht]
  · intro depth p q hpq
    rw [lines_negation_value, lines_negation_value, hpq]
  · intro depth j ps qs hps
    rw [lines_join_value, lines_join_value, hps]

end Predicate

namespace Format

theorem render_failure_congr (format : Format) {p q : Predicate F} (h : (p == q) = true) :
    (format.render p).failure = (format.render q).failure := by
  rw [format.render_failure, format.render_failure, Predicate.compact_failure_congr h]

theorem render_value_congr (format : Format) {p q : Predicate F} (h : (p == q) = true)
    (hzero : ∀ r ∈ p.nodes, r.HasNoZero) :
    (format.render p).value = (format.render q).value := by
  cases format with
  | compact => exact Predicate.text_congr h hzero
  | indented layout =>
      exact congrArg (· ++ layout.terminator) (Predicate.lines_value_congr layout h hzero)

end Format

namespace Predicate

/-- **Equality of predicates and values is a congruence.** Provided that the comparisons of the caller's
types are symmetric and transitive, equality of values and equality of predicates are; a predicate equals
itself exactly if there is neither a NaN nor a foreign item unequal to itself in it; and equal predicates
give equal values the same verdict with the same failure, are rendered with the same failure in each
format and, if no leaf tests for a zero, with the same text. -/
theorem equality_is_congruence [F.PartialEquiv] :
    (∀ v w : Value F, (v == w) = true → (w == v) = true) ∧
      (∀ u v w : Value F, (u == v) = true → (v == w) = true → (u == w) = true) ∧
      (∀ p q : Predicate F, (p == q) = true → (q == p) = true) ∧
      (∀ p q r : Predicate F, (p == q) = true → (q == r) = true → (p == r) = true) ∧
      (∀ p : Predicate F, (p == p) = true ↔ ∀ q ∈ p.nodes,
        (∀ x, q.number? = some x → x.isNaN = false) ∧
          ∀ l, q.literal? = some l → ∀ u ∈ l.toValue.parts,
            (∀ x, u = .number x → x.isNaN = false) ∧
              ∀ item, u = .foreign item → (item == item) = true) ∧
      (∀ p q : Predicate F, (p == q) = true →
        (∀ v w : Value F, (v == w) = true → p.check v = q.check w) ∧
        (∀ format : Format, (format.render p).failure = (format.render q).failure) ∧
        ((∀ r ∈ p.nodes, ∀ x, r.number? = some x → (x == 0) = false) →
          ∀ format : Format, (format.render p).value = (format.render q).value)) := by
  refine ⟨fun v w => BEq.symm, fun u v w => BEq.trans, fun p q => BEq.symm,
    fun p q r => BEq.trans, beq_self_iff, fun p q h => ⟨fun v w => check_congr h, ?_, ?_⟩⟩
  · exact fun format => format.render_failure_congr h
  · exact fun hzero format => format.render_value_congr h hzero

/-- Tests for one float, as a bound and inside a list. -/
def testsFor (x : Float) : Predicate .floats :=
  .join .any [.leaf (.lessThan x), .leaf (.equals (.other (.list [.number x, .foreign ⟨(), x⟩])))]

/-- The two zeros make equal predicates, which differ in their text, and a NaN makes one that differs from
itself. -/
theorem equality_is_congruence_of_zeros :
    (testsFor 0).check (.list [.number (-0), .foreign ⟨(), (-0 : Float)⟩]) =
        (testsFor (-0)).check (.list [.number 0, .foreign ⟨(), (0 : Float)⟩]) ∧
      (testsFor 0).text ≠ (testsFor (-0)).text ∧
      (testsFor (0 / 0) == testsFor (0 / 0)) = false := by
  refine ⟨((equality_is_congruence (F := Foreign.floats)).2.2.2.2.2 _ _ rfl).1 _ _ rfl, ?_, ?_⟩
  · decide +kernel
  · rw [← Bool.not_eq_true, (equality_is_congruence (F := Foreign.floats)).2.2.2.2.1]
    intro h
    have hbound := h (.leaf (.lessThan (0 / 0))) (.tail _ (.head _))
    exact absurd (hbound.1 _ rfl) (by decide +kernel)

end Predicate

end Criteria
