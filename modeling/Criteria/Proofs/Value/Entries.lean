/-
# Criteria.Proofs.Value.Entries — maps as sorted entries

The entries of a map ascend by key. What a list of entries becomes when it is sorted is determined by two
facts alone: the result ascends (`ascending_sortEntries`), and under every key it holds what the list
held there LAST (`lookup_sortEntries`). For two ascending lists that hold the same under every key are the
same list (`eq_of_lookup_eq`).

Insertion looks for the place of its key from the front. That what it gives holds the new value under its
key, and under every other key what was there, needs no order at all; only that the order is kept does.
-/
import Criteria.Value.Basic
import Mathlib.Data.List.Induction
import Mathlib.Data.String.Basic

namespace Criteria.Value

variable {F : Foreign} {es fs : List (String × Value F)} {k l : String} {v w : Value F}

/-! ## Looking up keys -/

theorem lookup_cons_eq (k : String) (v : Value F) (es : List (String × Value F)) (l : String) :
    ((k, v) :: es).lookup l = if l = k then some v else es.lookup l := by
  rw [List.lookup_cons]
  by_cases h : l = k
  · rw [if_pos h, beq_iff_eq.mpr h]
  · rw [if_neg h, beq_false_of_ne h]

theorem mem_of_lookup_eq_some (h : es.lookup k = some v) : (k, v) ∈ es := by
  induction es with
  | nil => cases h
  | cons e es ih =>
      rw [lookup_cons_eq] at h
      split at h
      · rename_i hk
        rw [hk, ← Option.some.inj h]
        exact List.mem_cons_self
      · exact List.mem_cons_of_mem _ (ih h)

/-- Ascending entries hold under a key what stands beside it. -/
theorem lookup_eq_some_of_mem (hes : Ascending es) (h : (k, v) ∈ es) : es.lookup k = some v := by
  induction es with
  | nil => cases h
  | cons e es ih =>
      obtain ⟨hlt, hes⟩ := List.pairwise_cons.mp hes
      rw [lookup_cons_eq]
      rcases List.mem_cons.mp h with rfl | h
      · exact if_pos rfl
      · rw [if_neg (hlt _ h).ne', ih hes h]

theorem lookup_insertEntry (es : List (String × Value F)) (k : String) (v : Value F) (l : String) :
    (insertEntry k v es).lookup l = if l = k then some v else es.lookup l := by
  induction es with
  | nil => exact lookup_cons_eq k v [] l
  | cons e es ih =>
      obtain ⟨m, w⟩ := e
      rw [insertEntry]
      split
      · rw [lookup_cons_eq]
      · split
        · rename_i _ hkm
          rw [lookup_cons_eq, lookup_cons_eq, ← hkm]
          split <;> rfl
        · rename_i _ hkm
          rw [lookup_cons_eq, lookup_cons_eq, ih]
          split
          · rename_i hlm
            rw [if_neg (hlm ▸ Ne.symm hkm)]
          · rfl

theorem eq_or_mem_of_mem_insertEntry {e : String × Value F} (h : e ∈ insertEntry k v es) :
    e = (k, v) ∨ e ∈ es := by
  induction es with
  | nil => exact .inl (List.mem_singleton.mp h)
  | cons f es ih =>
      obtain ⟨m, w⟩ := f
      rw [insertEntry] at h
      split at h
      · exact (List.mem_cons.mp h)
      · split at h
        · exact (List.mem_cons.mp h).imp_right (List.mem_cons_of_mem _)
        · rcases List.mem_cons.mp h with rfl | h
          · exact .inr List.mem_cons_self
          · exact (ih h).imp_right (List.mem_cons_of_mem _)

theorem ascending_insertEntry (hes : Ascending es) : Ascending (insertEntry k v es) := by
  induction es with
  | nil => exact List.pairwise_singleton _ _
  | cons e es ih =>
      obtain ⟨m, w⟩ := e
      obtain ⟨hlt, hrest⟩ := List.pairwise_cons.mp hes
      rw [insertEntry]
      split
      · rename_i hkm
        refine List.pairwise_cons.mpr ⟨fun f hf => ?_, hes⟩
        rcases List.mem_cons.mp hf with rfl | hf
        · exact hkm
        · exact hkm.trans (hlt f hf)
      · split
        · rename_i _ hkm
          exact List.pairwise_cons.mpr ⟨fun f hf => hkm ▸ hlt f hf, hrest⟩
        · rename_i hnlt hne
          refine List.pairwise_cons.mpr ⟨fun f hf => ?_, ih hrest⟩
          rcases eq_or_mem_of_mem_insertEntry hf with rfl | hf
          · exact lt_of_le_of_ne (not_lt.mp hnlt) (Ne.symm hne)
          · exact hlt f hf

/-- An entry whose key is greater than all others is put at the end. -/
theorem insertEntry_eq_append (h : ∀ e ∈ es, e.1 < k) : insertEntry k v es = es ++ [(k, v)] := by
  induction es with
  | nil => rfl
  | cons e es ih =>
      obtain ⟨hlt, hrest⟩ := List.forall_mem_cons.mp h
      rw [insertEntry, if_neg (lt_asymm hlt), if_neg hlt.ne', ih hrest, List.cons_append]

/-! ## Sorting entries -/

theorem sortEntries_append_singleton (es : List (String × Value F)) (k : String) (v : Value F) :
    sortEntries (es ++ [(k, v)]) = insertEntry k v (sortEntries es) := by
  rw [sortEntries, List.foldl_append]
  rfl

theorem ascending_sortEntries (es : List (String × Value F)) : Ascending (sortEntries es) := by
  induction es using List.reverseRecOn with
  | nil => exact List.Pairwise.nil
  | append_singleton es e ih =>
      rw [sortEntries_append_singleton]
      exact ascending_insertEntry ih

/-- Sorted entries hold under each key what stood beside it last. -/
theorem lookup_sortEntries (es : List (String × Value F)) (k : String) :
    (sortEntries es).lookup k = es.reverse.lookup k := by
  induction es using List.reverseRecOn with
  | nil => rfl
  | append_singleton es e ih =>
      obtain ⟨l, v⟩ := e
      rw [sortEntries_append_singleton, lookup_insertEntry, List.reverse_append,
        List.reverse_singleton, List.singleton_append, lookup_cons_eq, ih]

theorem mem_of_mem_sortEntries {e : String × Value F} (h : e ∈ sortEntries es) : e ∈ es := by
  have hlookup := lookup_eq_some_of_mem (ascending_sortEntries es) h
  rw [lookup_sortEntries] at hlookup
  exact List.mem_reverse.mp (mem_of_lookup_eq_some hlookup)

/-- Ascending entries are sorted already. -/
theorem sortEntries_eq_self (hes : Ascending es) : sortEntries es = es := by
  induction es using List.reverseRecOn with
  | nil => rfl
  | append_singleton es e ih =>
      obtain ⟨k, v⟩ := e
      obtain ⟨hinit, _, hlt⟩ := List.pairwise_append.mp hes
      rw [sortEntries_append_singleton, ih hinit]
      exact insertEntry_eq_append fun e he => hlt e he _ List.mem_cons_self

end Criteria.Value
