/-
# Criteria.Proofs.Json.Standard — the standard codec keeps the laws

`Codec.faithful_standard`. Most of it is said of the reader and the writer elsewhere: what is written is
read (`ofText?_write`), and what is read stays within the bounds (`isBounded_of_ofText?`). What is left
concerns floats. One that is not finite is written as null; and where a float alone is read back from its
text, no part of the text is left over as white space, for there is none in it, so the float is read back
within a longer text as well (`isReadNumber_of_ofText?`).
-/
import Criteria.Proofs.Json.Bounds
import Criteria.Proofs.Number.Exact

namespace Criteria.Json

open Decimal (Digits Dyadic Reading Spelling)

/-! ## Floats that are not finite -/

theorem write_float_of_not_isFinite {x : Float} (h : ¬x.isFinite = true) :
    write (.float x) = "null" := by
  rw [write, Spelling.write]
  split
  · rfl
  · rfl
  · rename_i d hd
    exact absurd ((Number.isFinite_iff_exists_reading x).mpr ⟨d, hd⟩) h

theorem writeItems_eq_map (items : List Json) : writeItems items = items.map write := by
  induction items with
  | nil => rfl
  | cons j items ih => rw [writeItems, ih, List.map_cons]

theorem write_normalized (j : Json) : write j.normalized = write j := by
  induction j with
  | float x =>
      rw [normalized]
      split
      · rfl
      · rename_i hx
        exact (write_float_of_not_isFinite hx).symm
  | arr items ih =>
      rw [normalized, write, write, normalizedItems_eq_map, writeItems_eq_map, writeItems_eq_map,
        List.map_map]
      congr 3
      exact List.map_congr_left ih
  | obj members ih =>
      rw [normalized, write, write, normalizedMembers_eq_map, writeMembers_eq_map,
        writeMembers_eq_map, List.map_map]
      congr 3
      refine List.map_congr_left fun m hm => ?_
      rw [Function.comp, memberText, memberText, ih m hm]
  | _ => rfl

/-! ## Texts without white space -/

/-- Whether no character is white space. -/
def isSolid (cs : List Char) : Bool := cs.all fun c => !isBlank c

theorem isSolid_iff {cs : List Char} : isSolid cs = true ↔ ∀ c ∈ cs, isBlank c = false := by
  simp [isSolid]

theorem isSolid_append {cs ds : List Char} :
    isSolid (cs ++ ds) = true ↔ isSolid cs = true ∧ isSolid ds = true := by
  rw [isSolid, List.all_append, Bool.and_eq_true]
  rfl

theorem isSolid_of_subset {cs ds : List Char} (h : isSolid ds = true) (hsub : cs ⊆ ds) :
    isSolid cs = true :=
  isSolid_iff.mpr fun c hc => isSolid_iff.mp h c (hsub hc)

theorem isSolid_of_all_isDigit {cs : List Char} (h : ∀ c ∈ cs, c.isDigit = true) :
    isSolid cs = true := by
  refine isSolid_iff.mpr fun c hc => ?_
  have hdigit := h c hc
  have hne : ∀ d : Char, d.isDigit = false → c ≠ d := by
    rintro d hd rfl
    rw [hd] at hdigit
    cases hdigit
  simp [isBlank, hne ' ' rfl, hne '\t' rfl, hne '\n' rfl, hne '\r' rfl]

theorem isSolid_replicate_zero (n : ℕ) : isSolid (List.replicate n '0') = true :=
  isSolid_of_all_isDigit fun c hc => by rw [(List.mem_replicate.mp hc).2]; rfl

theorem isDigit_of_mem_dropTrailingZeros {cs : List Char} (h : ∀ c ∈ cs, c.isDigit = true) :
    ∀ c ∈ Decimal.dropTrailingZeros cs, c.isDigit = true := by
  rw [Decimal.dropTrailingZeros]
  split
  · exact List.forall_mem_singleton.mpr rfl
  · intro c hc
    have hmem := (List.dropWhile_sublist _).mem (List.mem_reverse.mp hc)
    exact h c (List.mem_reverse.mp hmem)

theorem isDigit_of_mem_shortest (tie : Decimal.Tie) (d : Decimal.Dyadic) :
    ∀ c ∈ (d.shortest tie).digits, c.isDigit = true := by
  rw [Decimal.Dyadic.shortest]
  split
  · exact List.forall_mem_singleton.mpr rfl
  · exact isDigit_of_mem_dropTrailingZeros (List.all_eq_true.mp (all_isDigit_toDigits _))

variable {d : Digits}

theorem isSolid_positional (h : ∀ c ∈ d.digits, c.isDigit = true) :
    isSolid d.positional.toList = true := by
  have hdigits := isSolid_of_all_isDigit h
  rw [Digits.positional]
  split
  · simp only [String.toList_append, String.toList_ofList, isSolid_append]
    exact ⟨by decide, isSolid_replicate_zero _, hdigits⟩
  · simp only [String.toList_append, String.toList_ofList, isSolid_append]
    refine ⟨⟨⟨isSolid_of_subset hdigits (List.take_subset _ _), isSolid_replicate_zero _⟩,
      by decide⟩, ?_⟩
    split
    · decide
    · rw [String.toList_ofList]
      exact isSolid_of_subset hdigits (List.drop_subset _ _)

theorem isSolid_scientific (h : ∀ c ∈ d.digits, c.isDigit = true) :
    isSolid (d.scientific "e+").toList = true := by
  have hdigits := isSolid_of_all_isDigit h
  rw [Digits.scientific]
  simp only [String.toList_append, isSolid_append]
  refine ⟨⟨⟨?_, ?_⟩, ?_⟩, ?_⟩
  · rw [String.toList_ofList]
    exact isSolid_of_subset hdigits (List.take_subset _ _)
  · split
    · decide
    · simp only [String.toList_append, String.toList_ofList, isSolid_append]
      exact ⟨by decide, isSolid_of_subset hdigits (List.drop_subset _ _)⟩
  · split <;> decide
  · rw [Nat.toList_repr]
    exact isSolid_of_all_isDigit (List.all_eq_true.mp (all_isDigit_toDigits _))

/-- No white space is in the text of a float. -/
theorem isSolid_write_float (x : Float) : isSolid (write (.float x)).toList = true := by
  have hnull : isSolid "null".toList = true := by decide
  rw [write, Spelling.write]
  split
  · exact hnull
  · exact hnull
  · rename_i d _
    have hdigits := isDigit_of_mem_shortest spelling.tie d
    dsimp only
    rw [String.toList_append, isSolid_append]
    refine ⟨by split <;> decide, ?_⟩
    split
    · exact isSolid_positional hdigits
    · exact isSolid_scientific hdigits

/-! ## What the reader leaves -/

variable {cs rest : List Char}

theorem isSuffix_of_readDigits {ds : List Char} (h : readDigits cs = some (ds, rest)) :
    rest <:+ cs := by
  rw [readDigits] at h
  split at h
  · cases h
  · cases h
    exact List.dropWhile_suffix _

theorem isSuffix_of_readWhole {ds : List Char} (h : readWhole cs = some (ds, rest)) :
    rest <:+ cs := by
  rw [readWhole] at h
  split at h
  · cases h
  · exact isSuffix_of_readDigits h

theorem isSuffix_of_readFraction {ds : List Char} (h : readFraction cs = some (ds, rest)) :
    rest <:+ cs := by
  unfold readFraction at h
  split at h
  · exact (isSuffix_of_readDigits h).trans (List.suffix_cons _ _)
  · cases h
    exact List.suffix_refl _

theorem isSuffix_of_readPower {e : ℤ} (h : readPower cs = some (e, rest)) : rest <:+ cs := by
  unfold readPower at h
  split at h <;> obtain ⟨⟨ds, after⟩, hds, heq⟩ := Option.map_eq_some_iff.mp h <;> cases heq
  · exact (isSuffix_of_readDigits hds).trans (List.suffix_cons _ _)
  · exact (isSuffix_of_readDigits hds).trans (List.suffix_cons _ _)
  · exact isSuffix_of_readDigits hds

theorem isSuffix_of_readExponent {e : Option ℤ} (h : readExponent cs = some (e, rest)) :
    rest <:+ cs := by
  unfold readExponent at h
  split at h
  · obtain ⟨⟨n, after⟩, hn, heq⟩ := Option.map_eq_some_iff.mp h
    cases heq
    exact (isSuffix_of_readPower hn).trans (List.suffix_cons _ _)
  · obtain ⟨⟨n, after⟩, hn, heq⟩ := Option.map_eq_some_iff.mp h
    cases heq
    exact (isSuffix_of_readPower hn).trans (List.suffix_cons _ _)
  · cases h
    exact List.suffix_refl _

/-- What is left after a number stood behind it. -/
theorem isSuffix_of_readNumber {j : Json} (h : readNumber cs = some (j, rest)) : rest <:+ cs := by
  obtain ⟨_, _, _, _, _, hwhole, hfraction, hexponent, _⟩ := readNumber_eq_some_iff.mp h
  have hsign : (splitSign cs).2 <:+ cs := by
    unfold splitSign
    split
    · exact List.suffix_cons _ _
    · exact List.suffix_refl _
  exact (isSuffix_of_readExponent hexponent).trans ((isSuffix_of_readFraction hfraction).trans
    ((isSuffix_of_readWhole hwhole).trans hsign))

/-- A document that is a float was read as a number. -/
theorem readNumber_of_readValue {fuel depth : ℕ} {x : Float}
    (h : readValue fuel depth cs = some (.float x, rest)) :
    readNumber (skipBlank cs) = some (.float x, rest) := by
  cases fuel with
  | zero => rw [readValue] at h; cases h
  | succ fuel =>
      unfold readValue at h
      split at h
      · cases h
      · cases h
      · cases h
      · obtain ⟨_, _, heq⟩ := Option.map_eq_some_iff.mp h; cases heq
      · cases h
      · cases h
      · split at h
        · cases h
        · obtain ⟨_, _, heq⟩ := Option.map_eq_some_iff.mp h; cases heq
      · split at h
        · cases h
        · obtain ⟨_, _, heq⟩ := Option.map_eq_some_iff.mp h; cases heq
      · exact h

/-- A float that is read back alone is read back as a number, with nothing left. -/
theorem isReadNumber_of_ofText? {x : Float} (h : ofText? (write (.float x)) = some (.float x)) :
    IsReadNumber x := by
  have hsolid := isSolid_iff.mp (isSolid_write_float x)
  rw [IsReadNumber]
  obtain ⟨cs, hcs⟩ : ∃ cs, (write (.float x)).toList = cs := ⟨_, rfl⟩
  rw [ofText?, hcs] at h
  rw [hcs] at hsolid ⊢
  split at h
  · rename_i j rest hread
    split at h
    · rename_i hblank
      obtain rfl := Option.some.inj h
      have hskip : skipBlank cs = cs := by
        cases cs with
        | nil => rfl
        | cons c cs => exact skipBlank_cons (hsolid c List.mem_cons_self) cs
      have hnumber := readNumber_of_readValue hread
      rw [hskip] at hnumber
      obtain rfl : rest = [] := by
        cases rest with
        | nil => rfl
        | cons c rest =>
            have hc := hsolid c ((isSuffix_of_readNumber hnumber).mem List.mem_cons_self)
            rw [skipBlank_cons hc] at hblank
            cases hblank
      exact hnumber
    · cases h
  · cases h

/-- The standard codec keeps the laws. -/
theorem Codec.faithful_standard : Codec.standard.Faithful where
  write_normalized := Json.write_normalized
  read?_write j hdepth h := by
    refine ofText?_write j (fun k hk => ?_) hdepth
    have hkeeps := h k hk
    cases k with
    | float x => exact isReadNumber_of_ofText? hkeeps
    | _ => exact hkeeps
  nesting_le _ _ h := (isBounded_of_ofText? h).1
  isFinite _ _ h x hx := (isBounded_of_ofText? h).2 _ hx x rfl

end Criteria.Json
