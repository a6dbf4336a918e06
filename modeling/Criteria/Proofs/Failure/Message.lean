/-
# Criteria.Proofs.Failure.Message — a message tells its failure

The message of an aggregate quotes the messages of its failures, and these may quote others, so that below
several levels each quote stands behind a row of backslashes. Nothing is lost on the way: a message
determines its failure, however deep the aggregates are nested and however many failures are in them.

There is one condition, on the names of types. Such a name ends its message without quotes around it, and a
comma in it would pass for the one between two failures of an aggregate.

The induction is on the first failure and shows that a message with a comma behind it tells where it ends
(`message_append_inj`). The messages in an aggregate do have a comma behind them, except for the last, and
so they are told apart in their row. The quotes around the row are taken off as a whole
(`Text.quote_append_inj`), so no level has to do with the escapes of another.
-/
import Criteria.Failure.Message
import Criteria.Proofs.Evaluation.Summary
import Criteria.Proofs.Text.Quoted

namespace Criteria

open Text

namespace Failure

variable {f g : Failure} {fs gs : List Failure} {x y : List Char}

/-! ## The messages of the three sorts of failures -/

theorem toList_message_aggregate (fs : List Failure) :
    (aggregate fs).message.toList =
      "composite error \x7b".toList ++
        ((quote (", ".intercalate (fs.map message))).toList ++ ['\x7d']) := by
  rw [← messages_eq_map]
  change ("composite error \x7b" ++ quote (", ".intercalate (messages fs)) ++ "\x7d").toList = _
  rw [String.toList_append, String.toList_append, List.append_assoc]
  rfl

theorem toList_message_unserializable (kind : Kind) (typeName : String) :
    (unserializable kind typeName).message.toList =
      "no serialization known for ".toList ++
        (kind.name.toList ++ ' ' :: ("over ".toList ++ typeName.toList)) := by
  change ("no serialization known for " ++ kind.name ++ " over " ++ typeName).toList = _
  rw [String.toList_append, String.toList_append, String.toList_append, List.append_assoc,
    List.append_assoc]
  rfl

/-- The character that a message begins with. -/
def initial : Failure → Char
  | .typeMismatch => 't'
  | .aggregate _ => 'c'
  | .unserializable _ _ => 'n'

theorem exists_message_eq_cons (f : Failure) : ∃ m, f.message.toList = f.initial :: m := by
  cases f with
  | typeMismatch => exact ⟨_, rfl⟩
  | aggregate fs => exact ⟨_, toList_message_aggregate fs⟩
  | unserializable kind typeName => exact ⟨_, toList_message_unserializable kind typeName⟩

theorem initial_eq_of_message_append_eq
    (h : f.message.toList ++ x = g.message.toList ++ y) : f.initial = g.initial := by
  obtain ⟨m, hm⟩ := exists_message_eq_cons f
  obtain ⟨n, hn⟩ := exists_message_eq_cons g
  rw [hm, hn, List.cons_append, List.cons_append] at h
  exact (List.cons.inj h).1

/-! ## Names without a comma -/

/-- No name of a type in the failure has a comma. -/
def HasPlainNames (f : Failure) : Prop :=
  ∀ kind typeName, unserializable kind typeName ∈ f.parts → ',' ∉ typeName.toList

theorem HasPlainNames.of_mem (h : (aggregate fs).HasPlainNames) (hf : f ∈ fs) :
    f.HasPlainNames := by
  intro kind typeName hname
  refine h kind typeName (List.mem_cons_of_mem _ ?_)
  rw [partsAll_eq_flatMap]
  exact List.mem_flatMap_of_mem hf hname

theorem HasPlainNames.comma_not_mem {kind : Kind} {typeName : String}
    (h : (unserializable kind typeName).HasPlainNames) : ',' ∉ typeName.toList :=
  h kind typeName (List.mem_singleton_self _)

theorem OfMismatches.hasPlainNames (h : f.OfMismatches) : f.HasPlainNames :=
  fun kind typeName hname => absurd rfl ((h.of_mem_parts _ hname).ne_unserializable kind typeName)

/-! ## Messages in front of a comma -/

/-- Names without a comma, each in front of one, are told apart. -/
theorem typeName_append_inj {s t : String} (hs : ',' ∉ s.toList) (ht : ',' ∉ t.toList)
    (h : s.toList ++ ',' :: x = t.toList ++ ',' :: y) : s = t ∧ x = y := by
  have hplain : ∀ u : String, ',' ∉ u.toList → ∀ c ∈ u.toList, (c != ',') = true :=
    fun u hu c hc => bne_iff_ne.mpr (ne_of_mem_of_not_mem hc hu)
  obtain ⟨hst, hxy⟩ := run_append_inj (hplain s hs) (hplain t ht) rfl rfl h
  exact ⟨String.toList_inj.mp hst, (List.cons.inj hxy).2⟩

/-- Only an empty row has an empty text, because no message is empty. -/
theorem eq_nil_of_intercalate_message_eq
    (h : ", ".intercalate (([] : List Failure).map message) = ", ".intercalate (gs.map message)) :
    gs = [] := by
  cases gs with
  | nil => rfl
  | cons g gs =>
      obtain ⟨m, hm⟩ := exists_message_eq_cons g
      have hlist := congrArg String.toList h
      rw [String.toList_intercalate, String.toList_intercalate, List.map_cons, List.map_cons,
        intercalate_cons_eq_append_flatMap, hm, List.cons_append] at hlist
      cases hlist

/-- Messages that are told apart in front of a comma are told apart in the row of an aggregate. -/
theorem eq_of_intercalate_message_eq
    (hf : ∀ f ∈ fs, ∀ g ∈ gs, ∀ x y : List Char,
      f.message.toList ++ ',' :: x = g.message.toList ++ ',' :: y → f = g ∧ x = y)
    (h : ", ".intercalate (fs.map message) = ", ".intercalate (gs.map message)) : fs = gs := by
  have hempty : fs = [] ↔ gs = [] := by
    constructor
    · rintro rfl
      exact eq_nil_of_intercalate_message_eq h
    · rintro rfl
      exact eq_nil_of_intercalate_message_eq h.symm
  have hrow := congrArg String.toList h
  rw [String.toList_intercalate, String.toList_intercalate, List.map_map, List.map_map] at hrow
  exact List.forall₂_eq_eq_eq ▸ ended_row_inj (by decide) hempty hf hrow

/-- A message in front of a comma determines its failure and what comes after the comma. -/
theorem message_append_inj (f : Failure) :
    ∀ g : Failure, f.HasPlainNames → g.HasPlainNames → ∀ x y : List Char,
      f.message.toList ++ ',' :: x = g.message.toList ++ ',' :: y → f = g ∧ x = y := by
  induction f with
  | typeMismatch =>
      intro g _ _ x y h
      -- the first character of a message leaves one sort of failure for the other
      have hinitial := initial_eq_of_message_append_eq h
      cases g with
      | typeMismatch => exact ⟨rfl, (List.cons.inj (List.append_cancel_left h)).2⟩
      | _ => cases hinitial
  | unserializable kind typeName =>
      intro g hf hg x y h
      have hinitial := initial_eq_of_message_append_eq h
      cases g with
      | unserializable kind' typeName' =>
          rw [toList_message_unserializable, toList_message_unserializable] at h
          simp only [List.append_assoc, List.cons_append, List.append_cancel_left_eq] at h
          obtain ⟨rfl, hname⟩ := name_append_inj (by decide) h
          obtain ⟨rfl, hxy⟩ := typeName_append_inj hf.comma_not_mem hg.comma_not_mem
            (List.append_cancel_left hname)
          exact ⟨rfl, hxy⟩
      | _ => cases hinitial
  | aggregate fs ih =>
      intro g hf hg x y h
      have hinitial := initial_eq_of_message_append_eq h
      cases g with
      | aggregate gs =>
          rw [toList_message_aggregate, toList_message_aggregate] at h
          simp only [List.append_assoc, List.cons_append, List.nil_append,
            List.append_cancel_left_eq] at h
          obtain ⟨hrow, hrest⟩ := quote_append_inj h
          obtain rfl : fs = gs := eq_of_intercalate_message_eq
            (fun f hfm g hgm => ih f hfm g (hf.of_mem hfm) (hg.of_mem hgm)) hrow
          exact ⟨rfl, (List.cons.inj (List.cons.inj hrest).2).2⟩
      | _ => cases hinitial

theorem eq_of_message_eq (hf : f.HasPlainNames) (hg : g.HasPlainNames)
    (h : f.message = g.message) : f = g :=
  (message_append_inj f g hf hg [] [] (by rw [h])).1

/-! ## The statement -/

/-- **Messages lose nothing.** Failures in which no name of a type has a comma have the same message only
if they are the same. Above all, this is so of the failures of checks, where no names of types occur: two
checks with the same message, if any, have the same failure, if any. -/
theorem message_tells_failure :
    (∀ f g : Failure,
      (∀ kind typeName, unserializable kind typeName ∈ f.parts → ',' ∉ typeName.toList) →
      (∀ kind typeName, unserializable kind typeName ∈ g.parts → ',' ∉ typeName.toList) →
      (f.message = g.message ↔ f = g)) ∧
    ∀ (F G : Foreign) (p : Predicate F) (q : Predicate G) (v : Value F) (w : Value G),
      (p.check v).failure.map message = (q.check w).failure.map message ↔
        (p.check v).failure = (q.check w).failure := by
  refine ⟨fun f g hf hg => ⟨eq_of_message_eq hf hg, congrArg message⟩,
    fun F G p q v w => ⟨fun h => ?_, congrArg _⟩⟩
  cases hp : (p.check v).failure with
  | none =>
      rw [hp, Option.map_none] at h
      exact (Option.map_eq_none_iff.mp h.symm).symm
  | some f =>
      rw [hp, Option.map_some] at h
      obtain ⟨g, hq, hmessage⟩ := Option.map_eq_some_iff.mp h.symm
      have hf : f.OfMismatches := Predicate.ofMismatches_of_mem_check_failure p f hp
      have hg : g.OfMismatches := Predicate.ofMismatches_of_mem_check_failure q g hq
      rw [hq, eq_of_message_eq hf.hasPlainNames hg.hasPlainNames hmessage.symm]

/-- A type mismatch inside the inner of two aggregates, and beside it; the name in front of it ends with a
quote and a brace, as a message does. -/
theorem message_tells_failure_of_nested :
    (aggregate [aggregate [unserializable .equals "a\"\x7d", typeMismatch]]).HasPlainNames ∧
      (aggregate [aggregate [unserializable .equals "a\"\x7d"], typeMismatch]).HasPlainNames ∧
      (aggregate [aggregate [unserializable .equals "a\"\x7d", typeMismatch]]).message ≠
        (aggregate [aggregate [unserializable .equals "a\"\x7d"], typeMismatch]).message := by
  have hinside :
      (aggregate [aggregate [unserializable .equals "a\"\x7d", typeMismatch]]).HasPlainNames := by
    simp [HasPlainNames, parts, partsAll]
  have hbeside :
      (aggregate [aggregate [unserializable .equals "a\"\x7d"], typeMismatch]).HasPlainNames := by
    simp [HasPlainNames, parts, partsAll]
  exact ⟨hinside, hbeside, fun h =>
    absurd ((message_tells_failure.1 _ _ hinside hbeside).mp h) (by decide)⟩

/-- A name with a comma can spell out a further failure. -/
example : (aggregate [unserializable .equals "a, type error"]).message =
    (aggregate [unserializable .equals "a", typeMismatch]).message := by decide +kernel

end Failure

end Criteria
