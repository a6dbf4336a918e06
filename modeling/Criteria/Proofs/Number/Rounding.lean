/-
# Criteria.Proofs.Number.Rounding — whole numbers become the nearest floats

A whole number of 64 bits is rounded to 53 of them. Arithmetic does this by shifting, and keeps two bits
beside the significand for what was shifted out; together they are a quotient with its remainder
(`Represents`), and rounding them is rounding the quotient.

So the significand rounds the number on the grid of one power of two. Floats between two points of this
grid are too small to be as near as the grid's first normal number (`exists_eq_mul_or_abs_lt`), so no
float is nearer (`isNearest_ofUInt64`, `isNearest_ofInt64`).
-/
import Criteria.Number.Widening
import Criteria.Proofs.Decimal.Rounding
import Criteria.Proofs.Number.Exact

namespace Criteria.Number

open Float.Model (Format UnpackedFloat totalExponent)
open Float.Model.UnpackedFloat (Sign Accuracy ExtendedMantissa shiftToTargetExponent)
open Decimal (Reading IsRounding roundDiv isRounding_roundDiv)

/-! ## Significands with two more bits -/

/-- A significand with its two further bits is a quotient: the bits tell how twice the remainder compares
with the divisor. -/
structure Represents (em : ExtendedMantissa) (num den : ℕ) : Prop where
  mantissa_eq : em.mantissa = num / den
  roundBit_iff : em.roundBit = true ↔ den ≤ 2 * (num % den)
  stickyBit_iff : em.stickyBit = true ↔ num % den ≠ 0 ∧ 2 * (num % den) ≠ den

theorem represents_exact (n : ℕ) : Represents (.ofMantissaAndAccuracy n .exact) n 1 where
  mantissa_eq := (Nat.div_one n).symm
  roundBit_iff := by simp [ExtendedMantissa.ofMantissaAndAccuracy, Nat.mod_one]
  stickyBit_iff := by simp [ExtendedMantissa.ofMantissaAndAccuracy, Nat.mod_one]

variable {em : ExtendedMantissa} {num den : ℕ}

theorem Represents.shiftRightOne (h : Represents em num den) (hden : 0 < den) :
    Represents em.shiftRightOne num (den * 2) := by
  have hlt : num % den < den := Nat.mod_lt num hden
  have hrest : num % (den * 2) = num % den + den * (num / den % 2) := Nat.mod_mul
  obtain ⟨r, hr⟩ : ∃ r, num % den = r := ⟨_, rfl⟩
  have hround := h.roundBit_iff
  have hsticky := h.stickyBit_iff
  rw [hr] at hlt hrest hround hsticky
  refine ⟨?_, ?_, ?_⟩
  · rw [ExtendedMantissa.shiftRightOne, h.mantissa_eq, Nat.div_div_eq_div_mul]
  · rw [ExtendedMantissa.shiftRightOne, h.mantissa_eq, hrest, bne_iff_ne]
    rcases Nat.mod_two_eq_zero_or_one (num / den) with hbit | hbit <;> rw [hbit] <;> omega
  · rw [ExtendedMantissa.shiftRightOne, Bool.or_eq_true, hround, hsticky, hrest]
    rcases Nat.mod_two_eq_zero_or_one (num / den) with hbit | hbit <;> rw [hbit] <;> omega

/-- Shifting divides by a power of two. -/
theorem represents_shiftRight (n k : ℕ) :
    Represents (ExtendedMantissa.ofMantissaAndAccuracy n .exact >>> k) n (2 ^ k) := by
  induction k with
  | zero => exact represents_exact n
  | succ k ih => exact ih.shiftRightOne (Nat.two_pow_pos k)

/-- The further bits are what rounding to the nearest, ties to even, needs to know. -/
theorem Represents.roundedMantissa (h : Represents em num den) :
    em.roundedMantissa = roundDiv num den := by
  obtain ⟨m, round, sticky⟩ := em
  obtain ⟨hm, hround, hsticky⟩ := h
  dsimp only at hm hround hsticky
  subst hm
  rw [roundDiv]
  cases round <;> cases sticky <;>
    simp only [ExtendedMantissa.roundedMantissa, ExtendedMantissa.accuracy,
      Accuracy.roundToNearestEven, Bool.false_eq_true, false_iff, true_iff] at hround hsticky ⊢
  · rw [if_pos (by omega)]
  · rw [if_pos (by omega)]
  · rw [if_neg (by omega), if_neg (by omega)]
    split <;> omega
  · rw [if_neg (by omega), if_pos (by omega)]

/-! ## Numbers near a number -/

/-- Of the numbers that a float can be this one is nearest to `q`; no other is as near unless its own
significand is even. -/
structure IsNearestTo (d : Decimal.Dyadic) (q : ℚ) : Prop where
  canonical : IsCanonical d
  le_abs_sub : ∀ e, IsCanonical e → |d.value - q| ≤ |e.value - q|
  even : ∀ e, IsCanonical e → |d.value - q| = |e.value - q| → e.value = d.value ∨ Even d.significand

/-- A number that a float can be lies on the grid of a power of two or below its normal numbers. -/
theorem exists_eq_mul_or_abs_lt {e : Decimal.Dyadic} (he : IsCanonical e) (f : ℤ) :
    (∃ t : ℤ, e.value = t * 2 ^ f) ∨ |e.value| < 2 ^ 52 * 2 ^ f := by
  have hpow : ∀ k : ℤ, (0 : ℚ) < 2 ^ k := fun k => zpow_pos two_pos k
  obtain ⟨sign, hsign, habs⟩ : ∃ sign : ℤ, e.value = sign * e.significand * 2 ^ e.exponent ∧
      |(sign : ℚ)| = 1 := by
    rw [Decimal.Dyadic.value]
    cases e.negative with
    | false => exact ⟨1, by norm_num, by norm_num⟩
    | true => exact ⟨-1, by norm_num, by norm_num⟩
  rcases le_or_gt f e.exponent with hle | hlt
  · left
    obtain ⟨k, hk⟩ := Int.le.dest hle
    refine ⟨sign * e.significand * 2 ^ k, ?_⟩
    rw [hsign, ← hk, zpow_add₀ two_ne_zero, zpow_natCast]
    push_cast
    ring
  · right
    have hsig : (e.significand : ℚ) < 2 ^ 53 := by exact_mod_cast he.significand_lt
    calc |e.value| = e.significand * 2 ^ e.exponent := by
          rw [hsign, abs_mul, abs_mul, habs, one_mul, Nat.abs_cast, abs_of_pos (hpow _)]
      _ < 2 ^ 53 * 2 ^ e.exponent := mul_lt_mul_of_pos_right hsig (hpow _)
      _ ≤ 2 ^ 53 * 2 ^ (f - 1) :=
          mul_le_mul_of_nonneg_left (zpow_le_zpow_right₀ one_le_two (by omega)) (by norm_num)
      _ = 2 ^ 52 * 2 ^ f := by
          rw [zpow_sub_one₀ two_ne_zero]
          ring

/-- What is rounded on the grid of a power of two, and not too small for it, is nearest. -/
theorem isNearestTo_of_isRounding {d : Decimal.Dyadic} (hd : IsCanonical d) {r : ℕ} {f : ℤ} {q : ℚ}
    (hvalue : d.value = r * 2 ^ f) (hround : IsRounding r (q / 2 ^ f)) (hlow : 2 ^ 52 * 2 ^ f ≤ q)
    (heven : Even r → Even d.significand) : IsNearestTo d q := by
  have hpow : (0 : ℚ) < 2 ^ f := zpow_pos two_pos f
  have hscale : ∀ t : ℚ, |t * 2 ^ f - q| = |t - q / 2 ^ f| * 2 ^ f := by
    intro t
    rw [← abs_of_pos hpow, ← abs_mul, sub_mul, abs_of_pos hpow, div_mul_cancel₀ _ hpow.ne']
  have hgrid : ∀ t : ℤ, |d.value - q| ≤ |(t : ℚ) * 2 ^ f - q| := by
    intro t
    rw [hvalue, hscale, hscale]
    exact mul_le_mul_of_nonneg_right (hround.le_abs_sub t) hpow.le
  -- below the normal numbers of the grid is nothing as near as the first of them
  have hbelow : ∀ v : ℚ, |v| < 2 ^ 52 * 2 ^ f → |d.value - q| < |v - q| := by
    intro v hv
    have hfirst := hgrid (2 ^ 52)
    rw [Int.cast_pow, Int.cast_ofNat] at hfirst
    rw [abs_of_nonpos (sub_nonpos.mpr hlow)] at hfirst
    rw [abs_of_neg (sub_neg.mpr (((le_abs_self v).trans_lt hv).trans_le hlow))]
    linarith [le_abs_self v]
  refine ⟨hd, fun e he => ?_, fun e he heq => ?_⟩
  · rcases exists_eq_mul_or_abs_lt he f with ⟨t, ht⟩ | hlt
    · rw [ht]
      exact hgrid t
    · exact (hbelow _ hlt).le
  · rcases exists_eq_mul_or_abs_lt he f with ⟨t, ht⟩ | hlt
    · by_cases htr : t = r
      · left
        rw [ht, htr, hvalue, Int.cast_natCast]
      · right
        rw [ht, hvalue, hscale, hscale] at heq
        exact heven (hround.even_of_abs_sub_eq htr (mul_right_cancel₀ hpow.ne' heq))
    · exact absurd heq (hbelow _ hlt).ne

theorem IsNearestTo.neg {d : Decimal.Dyadic} {q : ℚ} (h : IsNearestTo d q) :
    IsNearestTo d.neg (-q) := by
  have hdist : ∀ e : Decimal.Dyadic, |e.value - -q| = |e.neg.value - q| := by
    intro e
    rw [Decimal.Dyadic.value_neg, ← abs_neg]
    congr 1
    ring
  have hself : |d.neg.value - -q| = |d.value - q| := by
    rw [hdist, Decimal.Dyadic.value_neg, Decimal.Dyadic.value_neg, neg_neg]
  refine ⟨h.canonical.neg, fun e he => ?_, fun e he heq => ?_⟩
  · rw [hself, hdist e]
    exact h.le_abs_sub _ he.neg
  · rw [hself, hdist e] at heq
    rcases h.even _ he.neg heq with hvalue | heven
    · left
      rw [Decimal.Dyadic.value_neg, ← hvalue, Decimal.Dyadic.value_neg, neg_neg]
    · exact .inr heven

/-! ## Rounding whole numbers -/

/-- A significand of at least 53 bits loses those that are too many. -/
theorem shiftToTargetExponent_exact {m k : ℕ} {e : ℤ} (hlow : 2 ^ (52 + k) ≤ m)
    (hhigh : m < 2 ^ (53 + k)) (he : -1074 ≤ e) :
    shiftToTargetExponent Format.binary64 m e .exact =
      (ExtendedMantissa.ofMantissaAndAccuracy m .exact >>> k, e + k) := by
  have hne : m ≠ 0 := (Nat.two_pow_pos _).trans_le hlow |>.ne'
  have hlog : m.log2 = 52 + k := by
    have hle := (Nat.le_log2 hne).mpr hlow
    have hlt := (Nat.log2_lt hne).mpr hhigh
    omega
  have hmin : Format.binary64.minExponent = -1074 := by decide
  have hshift : (Format.binary64.targetExponent (totalExponent m e) - e).toNat = k := by
    simp only [Format.targetExponent, totalExponent, Format.mantissaBits, hmin, hlog]
    omega
  rw [shiftToTargetExponent, Float.Model.UnpackedFloat.shiftToExponent, hshift]

theorem roundDiv_bounds (num den : ℕ) :
    num / den ≤ roundDiv num den ∧ roundDiv num den ≤ num / den + 1 := by
  rw [roundDiv]
  split_ifs <;> omega

/-- Rounded to 53 bits, a significand has so many, or is the least one with one bit more. -/
theorem roundDiv_mem_bounds {m k : ℕ} (hlow : 2 ^ (52 + k) ≤ m) (hhigh : m < 2 ^ (53 + k)) :
    2 ^ 52 ≤ roundDiv m (2 ^ k) ∧ roundDiv m (2 ^ k) ≤ 2 ^ 53 := by
  have hle : 2 ^ 52 ≤ m / 2 ^ k := by
    rwa [Nat.le_div_iff_mul_le (Nat.two_pow_pos k), ← Nat.pow_add]
  have hlt : m / 2 ^ k < 2 ^ 53 := by
    rwa [Nat.div_lt_iff_lt_mul (Nat.two_pow_pos k), ← Nat.pow_add]
  have hbounds := roundDiv_bounds m (2 ^ k)
  omega

/-- A significand of at least 53 bits is rounded to 53, on the grid of the power of two that it then
has; where rounding carries into one more bit, the last bit is a zero and is given up. -/
theorem exists_roundWithAccuracy_eq (s : Sign) {m k : ℕ} {e : ℤ} (hlow : 2 ^ (52 + k) ≤ m)
    (hhigh : m < 2 ^ (53 + k)) (he : -1074 ≤ e) :
    ∃ n f h, UnpackedFloat.roundWithAccuracy Format.binary64 s m e .exact = .finite s n f h ∧
      2 ^ 52 ≤ n ∧ n < 2 ^ 53 ∧ e ≤ f ∧ f ≤ e + k + 1 ∧
      (n : ℚ) * 2 ^ f = roundDiv m (2 ^ k) * 2 ^ (e + k) ∧ (Even (roundDiv m (2 ^ k)) → Even n) := by
  obtain ⟨r, hr⟩ : ∃ r, roundDiv m (2 ^ k) = r := ⟨_, rfl⟩
  have hfirst := shiftToTargetExponent_exact hlow hhigh he
  have hrounded : (ExtendedMantissa.ofMantissaAndAccuracy m .exact >>> k).roundedMantissa = r :=
    (represents_shiftRight m k).roundedMantissa.trans hr
  obtain ⟨hrlow, hrhigh⟩ := hr ▸ roundDiv_mem_bounds hlow hhigh
  rw [UnpackedFloat.roundWithAccuracy, hfirst]
  dsimp only
  rw [hrounded, hr]
  rcases Nat.lt_or_eq_of_le hrhigh with hlt | rfl
  · have hsecond : shiftToTargetExponent Format.binary64 r (e + k) .exact =
        (⟨r, false, false⟩, e + k) := by
      rw [shiftToTargetExponent_exact (k := 0) hrlow hlt (by omega), Nat.cast_zero, add_zero]
      rfl
    have hpos : r ≠ 0 := (Nat.two_pow_pos 52).trans_le hrlow |>.ne'
    rw [hsecond]
    exact ⟨r, e + k, Nat.pos_of_ne_zero hpos, dif_neg hpos, hrlow, hlt, by omega, by omega, rfl, id⟩
  · have hsecond : shiftToTargetExponent Format.binary64 (2 ^ 53) (e + k) .exact =
        (⟨2 ^ 52, false, false⟩, e + k + 1) := by
      rw [shiftToTargetExponent_exact (k := 1) (by decide) (by decide) (by omega), Nat.cast_one]
      rfl
    have hvalue : ((2 ^ 52 : ℕ) : ℚ) * 2 ^ (e + k + 1) = (2 ^ 53 : ℕ) * 2 ^ (e + k) := by
      rw [zpow_add_one₀ two_ne_zero]
      push_cast
      ring
    have hpos : (2 ^ 52 : ℕ) ≠ 0 := by decide
    have heven : Even (2 ^ 52 : ℕ) := by decide
    rw [hsecond]
    exact ⟨2 ^ 52, e + k + 1, Nat.pos_of_ne_zero hpos, dif_neg hpos, le_refl _, by decide, by omega,
      by omega, hvalue, fun _ => heven⟩

/-- A short number is made longer before it is rounded. -/
theorem round_eq_roundWithAccuracy (s : Sign) {n : ℕ} (hlog : n.log2 < 64) :
    UnpackedFloat.round Format.binary64 s n 0 =
      UnpackedFloat.roundWithAccuracy Format.binary64 s (n * 2 ^ (52 - n.log2))
        (-(52 - n.log2 : ℕ)) .exact := by
  have hmin : Format.binary64.minExponent = -1074 := by decide
  have hshift : (0 - Format.binary64.targetExponent (totalExponent n 0)).toNat = 52 - n.log2 := by
    simp only [Format.targetExponent, totalExponent, Format.mantissaBits, hmin]
    omega
  rw [UnpackedFloat.round, Float.Model.UnpackedFloat.decreaseExponent]
  dsimp only
  rw [hshift, Nat.shiftLeft_eq, zero_sub]

/-- A whole number of 64 bits is rounded to a normal number that is nearest to it. -/
theorem exists_round_eq (s : Sign) {n : ℕ} (hpos : 0 < n) (hlt : n < 2 ^ 64) :
    ∃ m e h, UnpackedFloat.round Format.binary64 s n 0 = .finite s m e h ∧
      2 ^ 52 ≤ m ∧ m < 2 ^ 53 ∧ -1074 ≤ e ∧ e < 972 ∧ IsNearestTo ⟨false, m, e⟩ n := by
  have hlog : n.log2 < 64 := (Nat.log2_lt hpos.ne').mpr hlt
  -- a short number gets `a` bits more, a long one loses `k` of them
  obtain ⟨a, ha⟩ : ∃ a, a = 52 - n.log2 := ⟨_, rfl⟩
  obtain ⟨k, hk⟩ : ∃ k, k = n.log2 - 52 := ⟨_, rfl⟩
  have hlow : 2 ^ (52 + k) ≤ n * 2 ^ a := by
    calc 2 ^ (52 + k) = 2 ^ n.log2 * 2 ^ a := by rw [← Nat.pow_add]; congr 1; omega
      _ ≤ n * 2 ^ a := Nat.mul_le_mul_right _ (Nat.log2_self_le hpos.ne')
  have hhigh : n * 2 ^ a < 2 ^ (53 + k) := by
    calc n * 2 ^ a < 2 ^ (n.log2 + 1) * 2 ^ a :=
          Nat.mul_lt_mul_of_pos_right Nat.lt_log2_self (Nat.two_pow_pos a)
      _ = 2 ^ (53 + k) := by rw [← Nat.pow_add]; congr 1; omega
  have hround := round_eq_roundWithAccuracy s hlog
  rw [← ha] at hround
  obtain ⟨m, e, h, heq, hmlow, hmhigh, hle, hge, hvalue, heven⟩ :=
    exists_roundWithAccuracy_eq s hlow hhigh (e := -a) (by omega)
  have hscale : ((n * 2 ^ a : ℕ) : ℚ) / (2 ^ k : ℕ) = n / 2 ^ (-(a : ℤ) + k) := by
    rw [zpow_add₀ two_ne_zero, zpow_neg, zpow_natCast, zpow_natCast]
    push_cast
    field_simp
  have hgrid : (2 : ℚ) ^ 52 * 2 ^ (-(a : ℤ) + k) ≤ n := by
    have hcast : (2 : ℚ) ^ (52 + k) ≤ n * 2 ^ a := by exact_mod_cast hlow
    rw [zpow_add₀ two_ne_zero, zpow_neg, zpow_natCast, zpow_natCast, mul_comm (_⁻¹), ← mul_assoc,
      ← pow_add, ← div_eq_mul_inv, div_le_iff₀ (by positivity)]
    exact hcast
  refine ⟨m, e, h, hround.trans heq, hmlow, hmhigh, by omega, by omega, ?_⟩
  refine isNearestTo_of_isRounding ⟨hmhigh, .inr hmlow, ?_⟩ ?_
    (hscale ▸ isRounding_roundDiv _ (Nat.two_pow_pos k)) hgrid heven
  · change (-1074 : ℤ) ≤ e
    omega
  · rw [Decimal.Dyadic.value, ← hvalue, if_neg Bool.false_ne_true, one_mul]

/-! ## Nearest floats -/

/-- The float is nearest to a number: no other is nearer, and if another is as near then the significand of
this one is even. -/
def IsNearest (x : Float) (q : ℚ) : Prop :=
  ∃ d, Reading.ofFloat x = .finite d ∧ ∀ y e, Reading.ofFloat y = .finite e →
    |d.value - q| ≤ |e.value - q| ∧
      (|d.value - q| = |e.value - q| → e.value = d.value ∨ Even d.significand)

theorem IsNearestTo.isNearest {d : Decimal.Dyadic} {q : ℚ} (h : IsNearestTo d q) {x : Float}
    (hx : Reading.ofFloat x = .finite d) : IsNearest x q :=
  ⟨d, hx, fun _ _ hy => ⟨h.le_abs_sub _ (isCanonical_of_reading hy),
    h.even _ (isCanonical_of_reading hy)⟩⟩

/-- A whole number other than zero becomes the normal number nearest to it, whichever sign that is given
afterwards. -/
theorem exists_reading_ofUInt64 {n : UInt64} (hpos : 0 < n.toNat) :
    ∃ d, IsNearestTo d n.toNat ∧ Reading.ofFloat (ofUInt64 n) = .finite d ∧
      Reading.ofFloat (-ofUInt64 n) = .finite d.neg := by
  obtain ⟨m, e, h, hround, hlow, hhigh, hmin, hmax, hnearest⟩ :=
    exists_round_eq .positive hpos n.toNat_lt
  have hparts : UnpackedFloat.ofUInt64 Format.binary64 n = .finite .positive m e h := by
    rw [UnpackedFloat.ofUInt64, UnpackedFloat.ofNat, UnpackedFloat.ofInt, UnpackedFloat.normalize,
      compare_gt_iff_gt.mpr (Int.natCast_pos.mpr hpos)]
    exact hround
  have hfloat : ofUInt64 n = Float.ofModel (.pack (.finite .positive m e h)) :=
    congrArg (fun u => Float.ofModel (.pack u)) hparts
  have hneg : -ofUInt64 n = Float.ofModel (.pack (.finite .negative m e h)) := by
    have hunpack := unpack_pack_normal .positive hlow hhigh hmin hmax
    rw [hfloat]
    exact congrArg (fun u => Float.ofModel (.pack (UnpackedFloat.neg u))) hunpack
  refine ⟨_, hnearest, ?_, ?_⟩
  · rw [hfloat]
    exact reading_pack_normal .positive hlow hhigh hmin hmax
  · rw [hneg]
    exact reading_pack_normal .negative hlow hhigh hmin hmax

/-- A whole number without a sign becomes the float nearest to it. -/
theorem isNearest_ofUInt64 (n : UInt64) : IsNearest (ofUInt64 n) n.toNat := by
  rcases Nat.eq_zero_or_pos n.toNat with hzero | hpos
  · obtain rfl : n = 0 := UInt64.toNat_inj.mp hzero
    refine ⟨⟨false, 0, Decimal.minExponent⟩, by rfl, fun y e _ => ?_⟩
    have hvalue : (⟨false, 0, Decimal.minExponent⟩ : Decimal.Dyadic).value = 0 := by
      simp [Decimal.Dyadic.value]
    rw [hvalue, hzero, Nat.cast_zero, sub_zero, abs_zero]
    exact ⟨abs_nonneg _, fun _ => .inr Even.zero⟩
  · obtain ⟨d, hnearest, hread, _⟩ := exists_reading_ofUInt64 hpos
    exact hnearest.isNearest hread

/-- A whole number with a sign becomes the float nearest to it. -/
theorem isNearest_ofInt64 (i : Int64) : IsNearest (ofInt64 i) i.toInt := by
  have hlow := i.le_toInt
  have hhigh := i.toInt_lt
  have hnat : (UInt64.ofNat i.toInt.natAbs).toNat = i.toInt.natAbs := by
    rw [UInt64.toNat_ofNat']
    omega
  rw [ofInt64]
  split
  · rename_i hneg
    rw [Int64.lt_iff_toInt_lt] at hneg
    change i.toInt < 0 at hneg
    obtain ⟨d, hnearest, _, hread⟩ :=
      exists_reading_ofUInt64 (n := .ofNat i.toInt.natAbs) (by omega)
    rw [hnat] at hnearest
    have hvalue : ((i.toInt : ℤ) : ℚ) = -(i.toInt.natAbs : ℚ) := by
      rw [Nat.cast_natAbs, abs_of_neg hneg]
      push_cast
      ring
    rw [hvalue]
    exact hnearest.neg.isNearest hread
  · rename_i hpos
    rw [Int64.lt_iff_toInt_lt] at hpos
    change ¬i.toInt < 0 at hpos
    have hnearest := isNearest_ofUInt64 (.ofNat i.toInt.natAbs)
    rw [hnat, Nat.cast_natAbs, abs_of_nonneg (by omega)] at hnearest
    exact hnearest

theorem IsNearest.isFinite {x : Float} {q : ℚ} (h : IsNearest x q) : x.isFinite = true := by
  obtain ⟨d, hd, _⟩ := h
  exact (isFinite_iff_exists_reading x).mpr ⟨d, hd⟩

end Criteria.Number
