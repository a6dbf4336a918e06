/-
# Criteria.Proofs.Rendering.Separation — what an indented text tells, whatever the layout

A layout is free. Its indentation may hold line feeds, commas, parentheses or the names of kinds, so that
neither the lines of an indented text nor the blanks in front of them mean anything. Still two texts in
one layout are the same only if the compact texts are (`indented_eq_iff_text_eq`).

What replaces the reading of lines is the depth. Texts that are compared at one depth begin with the same
padding, which comes off unread, and behind it stands the name of a kind, then as in the compact form:
after each child a comma or a line feed decides between a further child and the end. Only the children of
a join are one level deeper than the line that closes it, and the two cannot be mistaken for each other
either: below the root, padding one line feed further would have to be the same again, so that it consists
of line feeds and the first other character decides; at the root the texts differ in length.
-/
import Criteria.Proofs.Rendering.Lines
import Criteria.Proofs.Rendering.Readable

namespace Criteria

open Criteria.Text

variable {F : Foreign} {l : Layout} {depth : Nat}

/-! ## Words shifted by one character -/

/-- A word that is a beginning of itself behind one more character consists of that character. -/
theorem eq_of_cons_append_eq_append {α : Type} {c : α} {w x y : List α}
    (h : c :: (w ++ x) = w ++ y) : ∀ k ∈ w, k = c := by
  induction w with
  | nil => simp
  | cons d w ih =>
      obtain ⟨rfl, hrest⟩ := List.cons.inj h
      rw [List.forall_mem_cons]
      exact ⟨rfl, ih hrest⟩

/-! ## Blocks -/

namespace Layout

theorem toList_pad_succ (l : Layout) (depth : Nat) :
    (l.pad (depth + 1)).toList = l.indent.toList ++ (l.pad depth).toList := by
  rw [pad, String.toList_append]

theorem forall_mem_pad {P : Char → Prop} (h : ∀ c ∈ l.indent.toList, P c) (depth : Nat) :
    ∀ c ∈ (l.pad depth).toList, P c := by
  induction depth with
  | zero => exact nofun
  | succ depth ih =>
      rw [toList_pad_succ, List.forall_mem_append]
      exact ⟨h, ih⟩

theorem toList_block (l : Layout) (depth : Nat) (kind : Kind) (children : List String) :
    (l.block depth kind children).toList =
      (l.pad depth).toList ++ (kind.name.toList ++ '(' :: '\n' ::
        ([',', '\n'].intercalate (children.map String.toList) ++
          '\n' :: ((l.pad depth).toList ++ [')']))) := by
  simp [block, String.toList_intercalate]

end Layout

namespace Predicate

/-- The lines of a predicate are the padding, the name of the kind, and what is between parentheses. -/
theorem exists_lines_eq (l : Layout) (depth : Nat) (p : Predicate F) :
    ∃ a, (p.lines l depth).value.toList =
      (l.pad depth).toList ++ (p.kind.name.toList ++ '(' :: a) := by
  cases p with
  | leaf t =>
      refine ⟨t.argument.value.toList ++ [')'], ?_⟩
      rw [lines_leaf_value, String.toList_append, text_leaf, toList_callText]
      rfl
  | negation p => exact ⟨_, l.toList_block depth .negation _⟩
  | join j ps =>
      rw [lines_join_value]
      exact ⟨_, l.toList_block depth j.kind _⟩

theorem kind_eq_of_lines_append_eq {p q : Predicate F} {x y : List Char}
    (h : (p.lines l depth).value.toList ++ x = (q.lines l depth).value.toList ++ y) :
    p.kind = q.kind := by
  obtain ⟨a, ha⟩ := exists_lines_eq l depth p
  obtain ⟨b, hb⟩ := exists_lines_eq l depth q
  rw [ha, hb] at h
  simp only [List.append_assoc, List.append_cancel_left_eq, List.cons_append] at h
  exact (name_append_inj (by decide) h).1

/-! ## The closing line is no child -/

/-- Below the root the line that closes a join is not the beginning of a child. -/
theorem close_ne_lines_append (hdepth : 0 < depth) (q : Predicate F) (x y : List Char) :
    '\n' :: ((l.pad depth).toList ++ ')' :: x) ≠ (q.lines l (depth + 1)).value.toList ++ y := by
  obtain ⟨a, ha⟩ := exists_lines_eq l (depth + 1) q
  obtain ⟨c, cs, hname, hc⟩ := exists_name_eq_cons q.kind
  obtain ⟨above, rfl⟩ : ∃ above, depth = above + 1 := ⟨depth - 1, by omega⟩
  intro h
  rw [ha, hname] at h
  -- the indentation stands on both sides, on the left behind a line feed
  have hindent : ∀ k ∈ l.indent.toList, k = '\n' := by
    rw [l.toList_pad_succ above, l.toList_pad_succ (above + 1), List.append_assoc,
      List.append_assoc, List.append_assoc] at h
    exact eq_of_cons_append_eq_append h
  have hpad : ∀ depth, ∀ k ∈ (l.pad depth).toList, (k == '\n') = true := fun depth =>
    Layout.forall_mem_pad (fun k hk => beq_iff_eq.mpr (hindent k hk)) depth
  have hclose : ∀ k ∈ '\n' :: (l.pad (above + 1)).toList, (k == '\n') = true :=
    List.forall_mem_cons.mpr ⟨beq_self_eq_true _, hpad (above + 1)⟩
  -- so the line feeds of both sides end together, in a parenthesis and in a letter
  have hletter : (c == '\n') = false := by
    rw [beq_eq_false_iff_ne]
    rintro rfl
    exact absurd hc (by decide)
  have hruns : ('\n' :: (l.pad (above + 1)).toList) ++ ')' :: x =
      (l.pad (above + 1 + 1)).toList ++ c :: (cs ++ '(' :: a ++ y) := by
    rw [List.cons_append, h, List.append_assoc, List.cons_append, List.cons_append]
  obtain ⟨_, hends⟩ := run_append_inj hclose (hpad (above + 1 + 1)) (by decide) hletter hruns
  rw [← (List.cons.inj hends).1] at hc
  exact absurd hc (by decide)

/-- Where the children of a join would begin there is the line that closes it only if it has none. -/
theorem eq_nil_of_close_eq_lines {qs : List (Predicate F)} {x y : List Char}
    (hxy : 0 < depth ∨ x.length = y.length)
    (h : '\n' :: ((l.pad depth).toList ++ ')' :: x) =
      [',', '\n'].intercalate (qs.map fun q => (q.lines l (depth + 1)).value.toList) ++
        '\n' :: ((l.pad depth).toList ++ ')' :: y)) : qs = [] := by
  cases qs with
  | nil => rfl
  | cons q qs =>
      rw [List.map_cons, intercalate_cons_eq_append_flatMap, List.append_assoc] at h
      rcases hxy with hdepth | hlen
      · exact absurd h (close_ne_lines_append hdepth q _ _)
      · -- a child has a length of its own
        obtain ⟨a, ha⟩ := exists_lines_eq l (depth + 1) q
        have hlength := congrArg List.length h
        rw [ha] at hlength
        simp only [List.length_append, List.length_cons, hlen] at hlength
        omega

/-! ## The text determines the predicate -/

theorem close_append_inj {x y : List Char}
    (h : '\n' :: ((l.pad depth).toList ++ ')' :: x) = '\n' :: ((l.pad depth).toList ++ ')' :: y)) :
    x = y :=
  (List.cons.inj (List.append_cancel_left (List.cons.inj h).2)).2

/-- Children that are told apart one by one are told apart in the block of a join. -/
theorem block_append_inj {j : Join} {ps qs : List (Predicate F)} {x y : List Char}
    (hxy : 0 < depth ∨ x.length = y.length)
    (hf : ∀ p ∈ ps, ∀ q ∈ qs, ∀ x y : List Char,
      (p.lines l (depth + 1)).value.toList ++ x = (q.lines l (depth + 1)).value.toList ++ y →
        p.Alike q ∧ x = y)
    (h : ((join j ps).lines l depth).value.toList ++ x =
      ((join j qs).lines l depth).value.toList ++ y) :
    List.Forall₂ Alike ps qs ∧ x = y := by
  rw [lines_join_value, lines_join_value, l.toList_block, l.toList_block, List.map_map,
    List.map_map] at h
  simp only [List.append_assoc, List.append_cancel_left_eq, List.cons_append, List.cons.injEq,
    true_and, List.nil_append] at h
  have hempty : ps = [] ↔ qs = [] := by
    constructor
    · rintro rfl
      exact eq_nil_of_close_eq_lines hxy h
    · rintro rfl
      exact eq_nil_of_close_eq_lines (hxy.imp_right Eq.symm) h.symm
  obtain ⟨hall, hrest⟩ := row_append_inj (by decide) hempty hf h
  exact ⟨hall, close_append_inj (congrArg ('\n' :: ·) hrest)⟩

/-- The lines of a predicate in front of any text determine both, up to the decimals of floats. At the
root, that is so in front of texts of one length. -/
theorem lines_append_inj (l : Layout) (p : Predicate F) :
    ∀ (q : Predicate F) (depth : Nat), p.compact.isClean = true → q.compact.isClean = true →
      ∀ x y : List Char, 0 < depth ∨ x.length = y.length →
        (p.lines l depth).value.toList ++ x = (q.lines l depth).value.toList ++ y →
          p.Alike q ∧ x = y := by
  induction p with
  | leaf s =>
      intro q depth hp hq x y _ h
      obtain ⟨t, rfl, -⟩ := exists_leaf_of_kind_eq (kind_eq_of_lines_append_eq h)
      rw [lines_leaf_value, lines_leaf_value, String.toList_append, String.toList_append,
        List.append_assoc, List.append_assoc] at h
      exact text_append_inj (leaf s) (leaf t) hp hq x y (List.append_cancel_left h)
  | negation p ih =>
      intro q depth hp hq x y _ h
      obtain ⟨q, rfl⟩ := exists_negation_of_kind_eq (kind_eq_of_lines_append_eq h)
      rw [compact_negation_isClean_iff] at hp hq
      rw [lines_negation_value, lines_negation_value, l.toList_block, l.toList_block] at h
      simp only [List.map_singleton, List.intercalate_singleton, List.append_assoc,
        List.append_cancel_left_eq, List.cons_append, List.cons.injEq, true_and,
        List.nil_append] at h
      obtain ⟨hpq, hrest⟩ := ih q (depth + 1) hp hq _ _ (Or.inl depth.succ_pos) h
      exact ⟨.negation hpq, close_append_inj hrest⟩
  | join j ps ih =>
      intro q depth hp hq x y hxy h
      obtain ⟨qs, rfl⟩ := exists_join_of_kind_eq (kind_eq_of_lines_append_eq h)
      rw [compact_join_isClean_iff] at hp hq
      obtain ⟨hall, hrest⟩ := block_append_inj hxy (fun p hpm q hqm x y => ih p hpm q
        (depth + 1) (hp p hpm) (hq q hqm) x y (Or.inl depth.succ_pos)) h
      exact ⟨.join hall, hrest⟩

/-! ## Predicates that are alike -/

theorem lines_value_eq_of_alike (l : Layout) (p : Predicate F) :
    ∀ (q : Predicate F) (depth : Nat), p.Alike q →
      (p.lines l depth).value = (q.lines l depth).value := by
  induction p with
  | leaf s =>
      intro q depth h
      cases h with
      | leaf hst => rw [lines_leaf_value, lines_leaf_value, text_eq_of_alike _ _ (.leaf hst)]
  | negation p ih =>
      intro q depth h
      cases h with
      | negation hpq => rw [lines_negation_value, lines_negation_value, ih _ (depth + 1) hpq]
  | join j ps ih =>
      intro q depth h
      cases h with
      | join hall =>
          have hchildren := map_eq_of_forall₂ hall fun p hp q => ih p hp q (depth + 1)
          rw [lines_join_value, lines_join_value, hchildren]

/-! ## The statement -/

theorem indented_isClean (l : Layout) (p : Predicate F) :
    (p.indented l).isClean = p.compact.isClean := by
  rw [Outcome.isClean, indented, Outcome.map_failure, lines_failure, Outcome.isClean]

theorem toList_indented (l : Layout) (p : Predicate F) :
    (p.indented l).value.toList = (p.lines l 0).value.toList ++ l.terminator.toList :=
  String.toList_append

/-- **The indented form separates what the compact form separates**, in every layout: clean predicates
have one indented text exactly if they have one compact text. -/
theorem indented_eq_iff_text_eq (l : Layout) (p q : Predicate F)
    (hp : (p.indented l).isClean = true) (hq : (q.indented l).isClean = true) :
    (p.indented l).value = (q.indented l).value ↔ p.text = q.text := by
  rw [indented_isClean] at hp hq
  constructor
  · intro h
    have hlines := congrArg String.toList h
    rw [toList_indented, toList_indented] at hlines
    obtain ⟨halike, -⟩ := lines_append_inj l p q 0 hp hq _ _ (Or.inr rfl) hlines
    exact text_eq_of_alike p q halike
  · intro h
    obtain ⟨halike, -⟩ := text_append_inj p q hp hq [] [] (by rw [h])
    have hlines := lines_value_eq_of_alike l p q 0 halike
    rw [indented, indented, Outcome.map_value, Outcome.map_value, hlines]

/-- An indentation that spells out the end of a line, a comma and a leaf does not make a join of two
leaves look like one of three. -/
theorem indented_eq_iff_text_eq_with_misleading_indent :
    ((join .all [leaf .existence, leaf .existence] : Predicate .unit).indented
          ⟨",\nExists()", ")"⟩).isClean = true ∧
      ((join .all [leaf .existence, leaf .existence, leaf .existence] : Predicate .unit).indented
          ⟨",\nExists()", ")"⟩).isClean = true ∧
      ((join .all [leaf .existence, leaf .existence] : Predicate .unit).indented
          ⟨",\nExists()", ")"⟩).value ≠
        ((join .all [leaf .existence, leaf .existence, leaf .existence] : Predicate .unit).indented
          ⟨",\nExists()", ")"⟩).value :=
  ⟨rfl, rfl, fun h => absurd ((indented_eq_iff_text_eq _ _ _ rfl rfl).mp h) (by decide)⟩

end Predicate

end Criteria
