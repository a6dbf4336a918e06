/-
# Criteria.Proofs.Rendering.Readable — a compact text tells its predicate

The compact form has no parser, but it could have one: a clean text in front of anything else determines
the predicate and what follows, up to the decimals that the text of a float drops (`Predicate.Alike`).
No text in a literal, whatever quotes, commas or parentheses are in it, makes two different predicates
look alike or makes the text of one the beginning of the text of another.

The induction is on the first predicate. A call tells its kind, the kind tells leaf from connective, and
inside a join the character after each child decides between a further child and the end, because the
separator begins with a comma and the end with a parenthesis (`row_append_inj`).
-/
import Criteria.Proofs.Rendering.Argument

namespace Criteria

open Criteria.Text

variable {F : Foreign}

/-! ## Predicates with one text -/

namespace Predicate

/-- Whether two predicates are the same, node for node, up to the decimals that the texts of floats
drop. -/
inductive Alike : Predicate F → Predicate F → Prop
  | leaf {s t : Test F} : s.Alike t → Alike (.leaf s) (.leaf t)
  | negation {p q : Predicate F} : Alike p q → Alike (.negation p) (.negation q)
  | join {j : Join} {ps qs : List (Predicate F)} :
      List.Forall₂ Alike ps qs → Alike (.join j ps) (.join j qs)

/-- What is the same for children that are alike is the same for rows of them. -/
theorem map_eq_of_forall₂ {β : Type} {f : Predicate F → β} {ps qs : List (Predicate F)}
    (h : List.Forall₂ Alike ps qs) (hf : ∀ p ∈ ps, ∀ q, p.Alike q → f p = f q) :
    ps.map f = qs.map f := by
  induction h with
  | nil => rfl
  | cons hpq _ ih =>
      rw [List.forall_mem_cons] at hf
      rw [List.map_cons, List.map_cons, hf.1 _ hpq, ih hf.2]

theorem text_eq_of_alike (p : Predicate F) : ∀ q : Predicate F, p.Alike q → p.text = q.text := by
  induction p with
  | leaf s =>
      intro q h
      cases h with
      | leaf hst => exact congrArg Outcome.value (Test.render_eq_of_alike hst)
  | negation p ih =>
      intro q h
      cases h with
      | negation hpq => rw [text_negation, text_negation, ih _ hpq]
  | join j ps ih =>
      intro q h
      cases h with
      | join hall => rw [text_join, text_join, map_eq_of_forall₂ hall ih]

/-! ## The text determines the predicate -/

/-- A text is a call: the name of the kind, and in parentheses the argument or the children. -/
theorem exists_text_eq_callText (p : Predicate F) : ∃ a, p.text = callText p.kind a := by
  cases p with
  | leaf t => exact ⟨_, text_leaf t⟩
  | negation p => exact ⟨_, text_negation p⟩
  | join j ps => exact ⟨_, text_join j ps⟩

theorem kind_eq_of_text_append_eq {p q : Predicate F} {x y : List Char}
    (h : p.text.toList ++ x = q.text.toList ++ y) : p.kind = q.kind := by
  obtain ⟨a, ha⟩ := exists_text_eq_callText p
  obtain ⟨b, hb⟩ := exists_text_eq_callText q
  rw [ha, hb] at h
  exact (callText_append_inj h).1

/-- No text begins with a parenthesis. -/
theorem text_append_ne_close (p : Predicate F) (x y : List Char) :
    p.text.toList ++ x ≠ ')' :: y := by
  obtain ⟨a, ha⟩ := exists_text_eq_callText p
  obtain ⟨c, cs, hname, hc⟩ := exists_name_eq_cons p.kind
  intro h
  rw [ha, toList_callText, hname, List.cons_append, List.cons_append, List.cons.injEq] at h
  rw [h.1] at hc
  exact absurd hc (by decide)

theorem toList_intercalate_text (ps : List (Predicate F)) :
    (", ".intercalate (ps.map text)).toList =
      [',', ' '].intercalate (ps.map fun p => p.text.toList) := by
  rw [String.toList_intercalate, List.map_map]
  rfl

/-- Where the children of a join would begin there is a parenthesis only if it has none. -/
theorem eq_nil_of_close_eq_intercalate {qs : List (Predicate F)} {x y : List Char}
    (h : ')' :: x = [',', ' '].intercalate (qs.map fun q => q.text.toList) ++ ')' :: y) :
    qs = [] := by
  cases qs with
  | nil => rfl
  | cons q qs =>
      rw [List.map_cons, intercalate_cons_eq_append_flatMap, List.append_assoc] at h
      exact absurd h.symm (text_append_ne_close q _ _)

/-- Children that are told apart one by one are told apart in the text of a join. -/
theorem children_append_inj {ps qs : List (Predicate F)}
    (hf : ∀ p ∈ ps, ∀ q ∈ qs, ∀ x y : List Char,
      p.text.toList ++ x = q.text.toList ++ y → p.Alike q ∧ x = y) {x y : List Char}
    (h : (", ".intercalate (ps.map text)).toList ++ ')' :: x =
      (", ".intercalate (qs.map text)).toList ++ ')' :: y) :
    List.Forall₂ Alike ps qs ∧ x = y := by
  rw [toList_intercalate_text, toList_intercalate_text] at h
  have hempty : ps = [] ↔ qs = [] := by
    constructor
    · rintro rfl
      exact eq_nil_of_close_eq_intercalate h
    · rintro rfl
      exact eq_nil_of_close_eq_intercalate h.symm
  exact row_append_inj (by decide) hempty hf h

theorem text_append_inj (p : Predicate F) :
    ∀ q : Predicate F, p.compact.isClean = true → q.compact.isClean = true →
      ∀ x y : List Char, p.text.toList ++ x = q.text.toList ++ y → p.Alike q ∧ x = y := by
  induction p with
  | leaf s =>
      intro q hp hq x y h
      -- the name in front of the parenthesis leaves one constructor for the other predicate
      obtain ⟨t, rfl, hkind⟩ := exists_leaf_of_kind_eq (kind_eq_of_text_append_eq h)
      rw [text_leaf, text_leaf] at h
      obtain ⟨hst, hxy⟩ := Test.argument_append_inj hp hq hkind (callText_append_inj h).2
      exact ⟨.leaf hst, hxy⟩
  | negation p ih =>
      intro q hp hq x y h
      obtain ⟨q, rfl⟩ := exists_negation_of_kind_eq (kind_eq_of_text_append_eq h)
      rw [compact_negation_isClean_iff] at hp hq
      rw [text_negation, text_negation] at h
      obtain ⟨hpq, hrest⟩ := ih q hp hq _ _ (callText_append_inj h).2
      exact ⟨.negation hpq, (List.cons.inj hrest).2⟩
  | join j ps ih =>
      intro q hp hq x y h
      obtain ⟨qs, rfl⟩ := exists_join_of_kind_eq (kind_eq_of_text_append_eq h)
      rw [compact_join_isClean_iff] at hp hq
      rw [text_join, text_join] at h
      obtain ⟨hall, hxy⟩ := children_append_inj
        (fun p hpm q hqm => ih p hpm q (hp p hpm) (hq q hqm)) (callText_append_inj h).2
      exact ⟨.join hall, hxy⟩

/-! ## Clean texts have no control character -/

theorem exists_control_mem_of_mem_intercalate {ps : List (Predicate F)} {c : Char}
    (hc : c ∈ (", ".intercalate (ps.map text)).toList) (hctl : isControl c = true) :
    ∃ p ∈ ps, c ∈ p.text.toList := by
  cases ps with
  | nil => cases hc
  | cons p ps =>
      rw [toList_intercalate_text, List.map_cons, intercalate_cons_eq_append_flatMap,
        List.mem_append, List.flatMap_map, List.mem_flatMap] at hc
      rcases hc with hc | ⟨q, hq, hc⟩
      · exact ⟨p, List.mem_cons_self, hc⟩
      · simp only [List.cons_append, List.nil_append, List.mem_cons] at hc
        rcases hc with rfl | rfl | hc
        · exact absurd hctl (by decide)
        · exact absurd hctl (by decide)
        · exact ⟨q, List.mem_cons_of_mem _ hq, hc⟩

theorem not_isClean_of_control_mem_text (p : Predicate F) {c : Char} (hctl : isControl c = true) :
    c ∈ p.text.toList → ¬ p.compact.isClean = true := by
  induction p with
  | leaf t =>
      intro hc hclean
      have hfailed := (Test.control_mem_argument (control_mem_callText hc hctl) hctl).1
      exact absurd (hfailed.symm.trans hclean) (by decide)
  | negation p ih =>
      intro hc
      rw [text_negation] at hc
      rw [compact_negation_isClean_iff]
      exact ih (control_mem_callText hc hctl)
  | join j ps ih =>
      intro hc hclean
      rw [text_join] at hc
      rw [compact_join_isClean_iff] at hclean
      obtain ⟨p, hp, hcp⟩ :=
        exists_control_mem_of_mem_intercalate (control_mem_callText hc hctl) hctl
      exact ih p hp hcp (hclean p hp)

/-! ## The statement -/

/-- **Compact texts are uniquely readable.** A clean text has no control character, and clean texts in
front of any others agree exactly when the predicates are alike and what follows is the same. -/
theorem compact_uniquely_readable (p : Predicate F) (hp : p.compact.isClean = true) :
    (∀ c ∈ p.text.toList, isControl c = false) ∧
      ∀ q : Predicate F, q.compact.isClean = true → ∀ x y : String,
        (p.text ++ x = q.text ++ y ↔ x = y ∧ p.Alike q) := by
  refine ⟨fun c hc => ?_, fun q hq x y => ⟨fun h => ?_, ?_⟩⟩
  · rw [Bool.eq_false_iff]
    intro hctl
    exact not_isClean_of_control_mem_text p hctl hc hp
  · have hlist : p.text.toList ++ x.toList = q.text.toList ++ y.toList := by
      rw [← String.toList_append, ← String.toList_append, h]
    obtain ⟨halike, hxy⟩ := text_append_inj p q hp hq _ _ hlist
    exact ⟨String.toList_inj.mp hxy, halike⟩
  · rintro ⟨rfl, halike⟩
    rw [text_eq_of_alike p q halike]

/-- A literal that spells out the text of a neighbouring leaf is not mistaken for that leaf. -/
theorem compact_uniquely_readable_beside_quotes :
    (join .all [leaf (.contains "a"), leaf (.contains "b")] :
        Predicate .unit).compact.isClean = true ∧
      (join .all [leaf (.contains "a\"), Contains(\"b")] :
        Predicate .unit).compact.isClean = true ∧
      ∀ x y : String,
        (join .all [leaf (.contains "a"), leaf (.contains "b")] : Predicate .unit).text ++ x ≠
          (join .all [leaf (.contains "a\"), Contains(\"b")] : Predicate .unit).text ++ y := by
  refine ⟨rfl, rfl, fun x y h => ?_⟩
  have halike := (((compact_uniquely_readable _ rfl).2 _ rfl x y).mp h).2
  cases halike with
  | join hall =>
      cases hall with
      | cons _ hrest => cases hrest

end Predicate

end Criteria
