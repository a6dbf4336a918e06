/-
# Criteria.Proofs.Number.Order — the comparisons of floats as an order of ranks

A float is its bits, and its comparisons take these apart into sign, exponent and significand. For the
theory of predicates they are one thing: every float that is a number has a RANK, ranks are totally
ordered, and

    x == y   when the ranks are equal,        x < y   when the rank of x is the lesser one,
                                              x ≤ y   when it is not the greater one.

A NaN has no rank, which is why it is neither equal to nor less than anything, itself included, and why a
comparison that does not hold says less than that the opposite one does (`not_le_iff`, `not_lt_iff`). All
laws of the comparisons below are laws of a linear order, carried over.

Two floats share a rank only if they are the two zeros or one and the same (`eq_of_beq_of_ne_zero`): the
parts of a float determine its bits, since all NaNs have the same bits (`pack_unpack`).
-/
import Mathlib

namespace Criteria.Number

open Float.Model (Format UnpackedFloat)
open Float.Model.UnpackedFloat (Sign packComponents unpackSign unpackExponent unpackMantissa)

/-! ## Bits and parts -/

/-- The bits of a float are those of its three parts, one after the other. -/
theorem packComponents_unpack (b : BitVec Format.binary64.numBits) :
    packComponents Format.binary64 (.ofBitVec (unpackSign b)) (unpackExponent b)
      (unpackMantissa b) = b := by
  have hsign : ∀ s : BitVec 1, (Sign.ofBitVec s).toBitVec = s := by decide
  have hparts : ∀ b : BitVec 64,
      (b.extractLsb' 63 1 ++ b.extractLsb' 52 11 : BitVec 12) ++ b.extractLsb' 0 52 = b := by
    intro b
    rw [BitVec.extractLsb'_append_extractLsb'_eq_extractLsb' (by omega),
      BitVec.extractLsb'_append_extractLsb'_eq_extractLsb' (by omega)]
    simp
  rw [packComponents, hsign]
  exact hparts b

theorem toNat_significand (m : BitVec 52) : (1#1 ++ m).toNat = 2 ^ 52 + m.toNat := by
  rw [BitVec.toNat_append, ← Nat.shiftLeft_add_eq_or_of_lt m.isLt]
  rfl

theorem log2_significand (m : BitVec 52) : (1#1 ++ m).toNat.log2 = 52 := by
  have hsum := toNat_significand m
  have hm : m.toNat < 2 ^ 52 := m.isLt
  have hpos : (1#1 ++ m).toNat ≠ 0 := by omega
  have hle := (Nat.le_log2 hpos (k := 52)).mpr (by omega)
  have hlt := (Nat.log2_lt hpos (k := 53)).mpr (by omega)
  omega

/-- Packing the parts of a float gives its bits. -/
theorem pack_unpack {b : BitVec Format.binary64.numBits} (hb : Format.binary64.Valid b) :
    UnpackedFloat.pack Format.binary64 (UnpackedFloat.unpack Format.binary64 b) = b := by
  have hparts := packComponents_unpack b
  rw [UnpackedFloat.unpack]
  by_cases hmax : unpackExponent b = -1#_
  · rw [if_pos hmax]
    by_cases hzero : unpackMantissa b = 0#_
    · rw [hmax, hzero] at hparts
      rw [if_pos hzero]
      exact hparts
    · rw [if_neg hzero]
      exact (hb.eq_packedNaN hmax hzero).symm
  rw [if_neg hmax]
  by_cases hmin : unpackExponent b = 0#_
  · rw [if_pos hmin]
    by_cases hzero : unpackMantissa b = 0#_
    · rw [hmin, hzero] at hparts
      rw [dif_pos hzero]
      exact hparts
    · -- a subnormal: its significand has fewer bits than a normal one
      have hlog : (unpackMantissa b).toNat.log2 + 1 ≠ Format.binary64.mantissaBits := by
        have hlt := (Nat.log2_lt (by rwa [ne_eq, ← BitVec.toNat_zero, BitVec.toNat_inj])).mpr
          (unpackMantissa b).isLt
        exact fun h => absurd (h.symm.trans_le hlt) (by decide)
      rw [dif_neg hzero, UnpackedFloat.pack, if_neg (by rw [hmin]; decide), if_neg hlog,
        BitVec.ofNat_toNat, BitVec.setWidth_eq, ← hmin, hparts]
  · -- a normal number: packing drops the leading one of the significand
    have hlow : BitVec.ofNat 52 (1#1 ++ unpackMantissa b).toNat = unpackMantissa b := by
      apply BitVec.eq_of_toNat_eq
      have hm : (unpackMantissa b).toNat < 2 ^ 52 := (unpackMantissa b).isLt
      rw [BitVec.toNat_ofNat, toNat_significand]
      omega
    have hlt : (unpackExponent b).toNat + 1 < 2 ^ 11 := by
      have hle : (unpackExponent b).toNat < 2 ^ 11 := (unpackExponent b).isLt
      have hne : (unpackExponent b).toNat ≠ 2 ^ 11 - 1 := fun h => hmax (BitVec.eq_of_toNat_eq h)
      omega
    have hbiased : ∀ bias bits : ℕ, (((unpackExponent b).toNat : ℤ) - (bias + bits) + bias +
        bits).toNat = (unpackExponent b).toNat := by omega
    have hlog : (1#1 ++ unpackMantissa b).toNat.log2 + 1 = Format.binary64.mantissaBits := by
      rw [log2_significand]
      rfl
    rw [if_neg hmin, UnpackedFloat.pack]
    dsimp only
    rw [hbiased, if_neg (by omega), if_pos hlog, BitVec.ofNat_toNat, BitVec.setWidth_eq, hlow,
      hparts]

/-- A float is determined by its parts. -/
theorem eq_of_unpack_eq {x y : Float} (h : x.toModel.unpack = y.toModel.unpack) : x = y := by
  have hbits : x.toModel.toBits.toBitVec = y.toModel.toBits.toBitVec := by
    rw [← pack_unpack x.toModel.valid, ← pack_unpack y.toModel.valid]
    exact congrArg (UnpackedFloat.pack Format.binary64) h
  obtain ⟨⟨b, hb⟩⟩ := x
  obtain ⟨⟨c, hc⟩⟩ := y
  obtain rfl : b = c := UInt64.toBitVec_inj.mp hbits
  rfl

/-! ## Ranks -/

/-- The place of a number in the order of floats: by its class first, from the negative infinity over
the negative numbers, the zeros and the positive numbers to the positive infinity, then by exponent, and
last by significand. -/
abbrev Rank : Type := ℤ ×ₗ ℤ ×ₗ ℤ

/-- The rank with the given class, exponent and significand. -/
def rankOf (cls exponent significand : ℤ) : Rank := toLex (cls, toLex (exponent, significand))

theorem rankOf_inj {c d e f m n : ℤ} :
    rankOf c e m = rankOf d f n ↔ c = d ∧ e = f ∧ m = n := by
  simp [rankOf]

theorem compare_rankOf (c d e f m n : ℤ) :
    compare (rankOf c e m) (rankOf d f n) =
      (compare c d).then ((compare e f).then (compare m n)) := by
  simp only [rankOf, Prod.Lex.compare_def, compareLex, compareOn, ofLex_toLex]

/-- The rank of a float, from its parts. Below zero the order of magnitudes is turned round. -/
def rankOfParts? : UnpackedFloat → Option Rank
  | .notANumber => none
  | .infinity s => some (rankOf (s.apply 2) 0 0)
  | .zero _ => some (rankOf 0 0 0)
  | .finite s m e _ => some (rankOf (s.apply 1) (s.apply e) (s.apply m))

/-- Only the zeros share their rank. -/
theorem eq_of_rankOfParts?_eq {a b : UnpackedFloat} (h : rankOfParts? a = rankOfParts? b)
    (hzero : rankOfParts? a ≠ some (rankOf 0 0 0)) : a = b := by
  rcases a with (_ | _) | _ | _ | ⟨_ | _, m, e, _⟩ <;>
    rcases b with (_ | _) | _ | _ | ⟨_ | _, n, f, _⟩ <;>
    simp_all [rankOfParts?, rankOf_inj, Sign.apply]

/-- The rank of a float; none if it is not a number. -/
def rank? (x : Float) : Option Rank := rankOfParts? x.toModel.unpack

theorem compare_neg_neg (a b : ℤ) : compare (-a) (-b) = (compare a b).swap := by
  rcases lt_trichotomy a b with h | rfl | h
  · rw [compare_gt_iff_gt.mpr (neg_lt_neg h), compare_lt_iff_lt.mpr h, Ordering.swap_lt]
  · rw [compare_eq_iff_eq.mpr rfl, compare_eq_iff_eq.mpr rfl, Ordering.swap_eq]
  · rw [compare_lt_iff_lt.mpr (neg_lt_neg h), compare_gt_iff_gt.mpr h, Ordering.swap_gt]

theorem compare_natCast (a b : ℕ) : compare (a : ℤ) b = compare a b := by
  rcases lt_trichotomy a b with h | rfl | h
  · rw [compare_lt_iff_lt.mpr h, compare_lt_iff_lt.mpr (Int.ofNat_lt.mpr h)]
  · rw [compare_eq_iff_eq.mpr rfl, compare_eq_iff_eq.mpr rfl]
  · rw [compare_gt_iff_gt.mpr h, compare_gt_iff_gt.mpr (Int.ofNat_lt.mpr h)]

/-- Floats are compared by their ranks. -/
theorem compare_eq_compare_rank (a b : UnpackedFloat) :
    a.compare b =
      (rankOfParts? a).bind fun r => (rankOfParts? b).map fun s => compare r s := by
  rcases a with (_ | _) | _ | _ | ⟨_ | _, m, e, _⟩ <;>
    rcases b with (_ | _) | _ | _ | ⟨_ | _, n, f, _⟩ <;>
    simp [UnpackedFloat.compare, rankOfParts?, compare_rankOf, Sign.apply, compare_neg_neg,
      compare_natCast, Ordering.swap_then] <;>
    rfl

theorem rank?_eq_none_iff (x : Float) : rank? x = none ↔ x.isNaN = true := by
  show rankOfParts? x.toModel.unpack = none ↔ x.toModel.unpack.isNaN = true
  cases x.toModel.unpack <;> simp [rankOfParts?, UnpackedFloat.isNaN]

/-- A comparison comes out if both floats have a rank, and then as it does for the ranks. -/
theorem compare_eq_some_iff (x y : Float) (o : Ordering) :
    x.toModel.unpack.compare y.toModel.unpack = some o ↔
      ∃ r s, rank? x = some r ∧ rank? y = some s ∧ compare r s = o := by
  rw [compare_eq_compare_rank, ← rank?, ← rank?]
  simp only [Option.bind_eq_some_iff, Option.map_eq_some_iff, exists_and_left]

theorem beq_iff (x y : Float) : (x == y) = true ↔ ∃ r, rank? x = some r ∧ rank? y = some r := by
  show (x.toModel.unpack.compare y.toModel.unpack == some .eq) = true ↔ _
  rw [beq_iff_eq, compare_eq_some_iff]
  constructor
  · rintro ⟨r, s, hx, hy, h⟩
    exact ⟨r, hx, by rw [hy, compare_eq_iff_eq.mp h]⟩
  · rintro ⟨r, hx, hy⟩
    exact ⟨r, r, hx, hy, compare_eq_iff_eq.mpr rfl⟩

theorem lt_iff (x y : Float) :
    x < y ↔ ∃ r s, rank? x = some r ∧ rank? y = some s ∧ r < s := by
  rw [show x < y ↔ decide (x.toModel < y.toModel) = true from Iff.rfl, decide_eq_true_iff]
  show (x.toModel.unpack.compare y.toModel.unpack == some .lt) = true ↔ _
  simp only [beq_iff_eq, compare_eq_some_iff, compare_lt_iff_lt]

theorem le_iff (x y : Float) :
    x ≤ y ↔ ∃ r s, rank? x = some r ∧ rank? y = some s ∧ r ≤ s := by
  rw [show x ≤ y ↔ decide (x.toModel ≤ y.toModel) = true from Iff.rfl, decide_eq_true_iff]
  show (x.toModel.unpack.compare y.toModel.unpack).any Ordering.isLE = true ↔ _
  simp only [Option.any_eq_true, compare_eq_some_iff, ← compare_le_iff_le, Ordering.ne_gt_iff_isLE]
  constructor
  · rintro ⟨_, ⟨r, s, hx, hy, rfl⟩, hle⟩
    exact ⟨r, s, hx, hy, hle⟩
  · rintro ⟨r, s, hx, hy, hle⟩
    exact ⟨_, ⟨r, s, hx, hy, rfl⟩, hle⟩

/-! ## Laws of the comparisons -/

variable {x y z w : Float}

theorem rank?_eq_of_beq (h : (x == y) = true) : rank? x = rank? y := by
  obtain ⟨r, hx, hy⟩ := (beq_iff x y).mp h
  rw [hx, hy]

/-- A float equals itself unless it is not a number. -/
theorem beq_self_iff (x : Float) : (x == x) = true ↔ x.isNaN = false := by
  rw [beq_iff, ← Bool.not_eq_true, ← rank?_eq_none_iff, ← ne_eq, Option.ne_none_iff_exists']
  simp

theorem beq_symm (h : (x == y) = true) : (y == x) = true := by
  obtain ⟨r, hx, hy⟩ := (beq_iff x y).mp h
  exact (beq_iff y x).mpr ⟨r, hy, hx⟩

theorem beq_congr (hx : (x == y) = true) (hz : (z == w) = true) : (x == z) = (y == w) := by
  rw [Bool.eq_iff_iff, beq_iff, beq_iff, rank?_eq_of_beq hx, rank?_eq_of_beq hz]

theorem beq_trans (hxy : (x == y) = true) (hyz : (y == z) = true) : (x == z) = true := by
  obtain ⟨r, hx, hy⟩ := (beq_iff x y).mp hxy
  exact (beq_iff x z).mpr ⟨r, hx, rank?_eq_of_beq hyz ▸ hy⟩

theorem le_iff_lt_or_beq (x y : Float) : x ≤ y ↔ x < y ∨ (x == y) = true := by
  rw [le_iff, lt_iff, beq_iff]
  constructor
  · rintro ⟨r, s, hx, hy, hle⟩
    rcases hle.lt_or_eq with hlt | rfl
    · exact Or.inl ⟨r, s, hx, hy, hlt⟩
    · exact Or.inr ⟨r, hx, hy⟩
  · rintro (⟨r, s, hx, hy, hlt⟩ | ⟨r, hx, hy⟩)
    · exact ⟨r, s, hx, hy, hlt.le⟩
    · exact ⟨r, r, hx, hy, le_rfl⟩

/-- A float is not at most another if it is greater, or if one of them is not a number. -/
theorem not_le_iff (x y : Float) : ¬ x ≤ y ↔ y < x ∨ x.isNaN = true ∨ y.isNaN = true := by
  rw [le_iff, lt_iff, ← rank?_eq_none_iff, ← rank?_eq_none_iff]
  cases rank? x with
  | none => simp
  | some r => cases rank? y <;> simp

/-- A float is not less than another if it is at least that one, or if one of them is not a number. -/
theorem not_lt_iff (x y : Float) : ¬ x < y ↔ y ≤ x ∨ x.isNaN = true ∨ y.isNaN = true := by
  rw [lt_iff, le_iff, ← rank?_eq_none_iff, ← rank?_eq_none_iff]
  cases rank? x with
  | none => simp
  | some r => cases rank? y <;> simp

/-- What is at most something, or has something at most it, is a number. -/
theorem isNaN_eq_false_of_le (h : x ≤ y) : x.isNaN = false ∧ y.isNaN = false := by
  obtain ⟨r, s, hx, hy, _⟩ := (le_iff x y).mp h
  rw [← Bool.not_eq_true, ← Bool.not_eq_true, ← rank?_eq_none_iff, ← rank?_eq_none_iff, hx, hy]
  exact ⟨nofun, nofun⟩

theorem isNaN_eq_false_of_lt (h : x < y) : x.isNaN = false ∧ y.isNaN = false :=
  isNaN_eq_false_of_le ((le_iff_lt_or_beq x y).mpr (.inl h))

theorem lt_congr (hx : (x == y) = true) (hz : (z == w) = true) : x < z ↔ y < w := by
  rw [lt_iff, lt_iff, rank?_eq_of_beq hx, rank?_eq_of_beq hz]

/-- Equal floats other than the zeros are the same float. -/
theorem eq_of_beq_of_ne_zero (h : (x == y) = true) (hzero : (x == 0) = false) : x = y := by
  refine eq_of_unpack_eq (eq_of_rankOfParts?_eq (rank?_eq_of_beq h) fun hx => ?_)
  rw [(beq_iff x 0).mpr ⟨_, hx, rfl⟩] at hzero
  cases hzero

end Criteria.Number
