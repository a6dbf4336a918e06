/-
# Criteria.Proofs.Text.Boundaries — where one text ends and the next begins

Texts are written one after the other, and a reader has to find the places where they end. A RUN of
characters of one class, such as the name of a kind, ends at the first character outside of the class. A
ROW of texts, each of which says where it ends, has a separator between each two of them and ends with a
character that no separator begins with.

Both are stated as an injectivity in front of any rest: if two texts, each followed by something, are the
same characters, then so are the texts, and so is what follows them.
-/
import Criteria.Kind
import Mathlib.Data.List.Forall2

namespace Criteria

namespace Text

/-! ## Runs of characters -/

/-- Two runs of characters of one class, each ended by a character outside of it, are told apart. -/
theorem run_append_inj {inside : Char → Bool} {a b x y : List Char} {c d : Char}
    (ha : ∀ k ∈ a, inside k = true) (hb : ∀ k ∈ b, inside k = true)
    (hc : inside c = false) (hd : inside d = false) (h : a ++ c :: x = b ++ d :: y) :
    a = b ∧ c :: x = d :: y := by
  induction a generalizing b with
  | nil =>
      cases b with
      | nil => exact ⟨rfl, h⟩
      | cons k b =>
          rw [List.nil_append, List.cons_append, List.cons.injEq] at h
          rw [h.1, hb k (by simp)] at hc
          cases hc
  | cons k a ih =>
      cases b with
      | nil =>
          rw [List.nil_append, List.cons_append, List.cons.injEq] at h
          rw [← h.1, ha k (by simp)] at hd
          cases hd
      | cons l b =>
          rw [List.cons_append, List.cons_append, List.cons.injEq] at h
          rw [List.forall_mem_cons] at ha hb
          obtain ⟨hab, hxy⟩ := ih ha.2 hb.2 h.2
          exact ⟨by rw [h.1, hab], hxy⟩

/-- What stands between two given texts is told by the whole. -/
theorem enclosed_inj {start stop s t : String} (h : start ++ s ++ stop = start ++ t ++ stop) :
    s = t := by
  have hlist := congrArg String.toList h
  simp only [String.toList_append] at hlist
  have hfront := List.append_cancel_right hlist
  exact String.toList_inj.mp (List.append_cancel_left hfront)

end Text

open Text

/-! ## Names of kinds -/

theorem all_isAlpha_name (k : Kind) : k.name.toList.all Char.isAlpha = true := by
  cases k <;> decide

theorem exists_name_eq_cons (k : Kind) :
    ∃ c cs, k.name.toList = c :: cs ∧ c.isAlpha = true := by
  cases k <;> exact ⟨_, _, rfl, by decide⟩

/-- The name of a kind ends at the first character that is no letter. -/
theorem name_append_inj {k l : Kind} {e : Char} {x y : List Char} (he : e.isAlpha = false)
    (h : k.name.toList ++ e :: x = l.name.toList ++ e :: y) : k = l ∧ x = y := by
  obtain ⟨hname, hrest⟩ := run_append_inj (List.all_eq_true.mp (all_isAlpha_name k))
    (List.all_eq_true.mp (all_isAlpha_name l)) he he h
  exact ⟨Kind.name_injective (String.toList_inj.mp hname), (List.cons.inj hrest).2⟩

/-! ## Rows of texts with a separator -/

theorem intercalate_cons_eq_append_flatMap {α : Type} (sep t : List α) (ts : List (List α)) :
    sep.intercalate (t :: ts) = t ++ ts.flatMap (sep ++ ·) := by
  induction ts generalizing t with
  | nil => simp
  | cons u ts ih => rw [List.intercalate_cons_cons, ih, List.flatMap_cons]; simp

/-- Texts that are told apart one by one are told apart in a row, if each has a separator in front and
the row ends with a character that no separator begins with. -/
theorem separated_append_inj {α : Type} {R : α → α → Prop} {f : α → List Char} {a e : Char}
    {sep : List Char} {ps qs : List α} (hae : a ≠ e)
    (hf : ∀ p ∈ ps, ∀ q ∈ qs, ∀ x y, f p ++ x = f q ++ y → R p q ∧ x = y) {x y : List Char}
    (h : ps.flatMap (fun p => a :: sep ++ f p) ++ e :: x =
      qs.flatMap (fun q => a :: sep ++ f q) ++ e :: y) :
    List.Forall₂ R ps qs ∧ x = y := by
  induction ps generalizing qs with
  | nil =>
      cases qs with
      | nil => exact ⟨.nil, by simpa using h⟩
      | cons q qs =>
          -- one row ends where the other has a separator
          rw [List.flatMap_cons, List.flatMap_nil, List.nil_append] at h
          exact absurd (List.cons.inj h).1.symm hae
  | cons p ps ih =>
      cases qs with
      | nil =>
          rw [List.flatMap_cons, List.flatMap_nil, List.nil_append] at h
          exact absurd (List.cons.inj h).1 hae
      | cons q qs =>
          simp only [List.flatMap_cons, List.append_assoc, List.cons_append, List.cons.injEq,
            true_and, List.append_cancel_left_eq] at h
          obtain ⟨hpq, hrest⟩ := hf p (by simp) q (by simp) _ _ h
          obtain ⟨hall, hxy⟩ := ih (fun p hp q hq =>
            hf p (List.mem_cons_of_mem _ hp) q (List.mem_cons_of_mem _ hq)) hrest
          exact ⟨.cons hpq hall, hxy⟩

/-- The same for a row without a separator in front of its first text, if only empty rows are told apart
from others beforehand. -/
theorem row_append_inj {α : Type} {R : α → α → Prop} {f : α → List Char} {a e : Char}
    {sep : List Char} {ps qs : List α} (hae : a ≠ e) (hempty : ps = [] ↔ qs = [])
    (hf : ∀ p ∈ ps, ∀ q ∈ qs, ∀ x y, f p ++ x = f q ++ y → R p q ∧ x = y) {x y : List Char}
    (h : (a :: sep).intercalate (ps.map f) ++ e :: x =
      (a :: sep).intercalate (qs.map f) ++ e :: y) :
    List.Forall₂ R ps qs ∧ x = y := by
  cases ps with
  | nil =>
      obtain rfl : qs = [] := hempty.mp rfl
      exact ⟨.nil, (List.cons.inj h).2⟩
  | cons p ps =>
      cases qs with
      | nil => exact absurd (hempty.mpr rfl) (List.cons_ne_nil p ps)
      | cons q qs =>
          rw [List.map_cons, List.map_cons, intercalate_cons_eq_append_flatMap,
            intercalate_cons_eq_append_flatMap, List.append_assoc, List.append_assoc] at h
          obtain ⟨hpq, hrest⟩ := hf p (by simp) q (by simp) _ _ h
          rw [List.flatMap_map, List.flatMap_map] at hrest
          obtain ⟨hall, hxy⟩ := separated_append_inj hae (fun p hp q hq =>
            hf p (List.mem_cons_of_mem _ hp) q (List.mem_cons_of_mem _ hq)) hrest
          exact ⟨.cons hpq hall, hxy⟩

/-- The characters that the separators of a row begin with end the texts in front of them, if the last text
gets one as well. -/
theorem intercalate_cons_append_singleton {α : Type} (c : α) (sep : List α) {ts : List (List α)}
    (h : ts ≠ []) :
    (c :: sep).intercalate ts ++ [c] = sep.intercalate (ts.map (· ++ [c])) := by
  induction ts with
  | nil => exact absurd rfl h
  | cons t ts ih =>
      cases ts with
      | nil => rw [List.map_singleton, List.intercalate_singleton, List.intercalate_singleton]
      | cons u us =>
          have hrest := ih (List.cons_ne_nil u us)
          rw [List.map_cons] at hrest
          rw [List.map_cons, List.map_cons, List.intercalate_cons_cons, List.intercalate_cons_cons,
            List.append_assoc, hrest]
          simp

/-- The same for a row of texts that do not say themselves where they end, but do with the first character
of the separator behind them. -/
theorem ended_row_inj {α : Type} {R : α → α → Prop} {f : α → List Char} {c a : Char}
    {sep : List Char} {ps qs : List α} (hac : a ≠ c) (hempty : ps = [] ↔ qs = [])
    (hf : ∀ p ∈ ps, ∀ q ∈ qs, ∀ x y, f p ++ c :: x = f q ++ c :: y → R p q ∧ x = y)
    (h : (c :: a :: sep).intercalate (ps.map f) = (c :: a :: sep).intercalate (qs.map f)) :
    List.Forall₂ R ps qs := by
  by_cases hps : ps = []
  · rw [hps, hempty.mp hps]
    exact .nil
  · have hqs : qs ≠ [] := fun hqs => hps (hempty.mpr hqs)
    have hended : (a :: sep).intercalate (ps.map fun p => f p ++ [c]) =
        (a :: sep).intercalate (qs.map fun q => f q ++ [c]) := by
      have hmap : ∀ rs : List α, (rs.map f).map (· ++ [c]) = rs.map fun r => f r ++ [c] :=
        fun rs => List.map_map
      rw [← hmap, ← hmap, ← intercalate_cons_append_singleton c _ (by simpa using hps),
        ← intercalate_cons_append_singleton c _ (by simpa using hqs), h]
    refine (row_append_inj hac hempty (fun p hp q hq x y hxy => ?_)
      (congrArg (· ++ [c]) hended)).1
    rw [List.append_assoc, List.append_assoc] at hxy
    exact hf p hp q hq x y hxy

end Criteria
