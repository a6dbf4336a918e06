/-
# Criteria.Proofs.Number.Exact — the exact value of a float

A finite float is a sign, a significand and a power of two, and so a rational number (`Dyadic.value`). The
texts of floats are worked out from these parts, which are read off the bits (`Reading.ofFloat`); the
arithmetic of floats takes the same bits apart in its own way. Both see the same (`reading_eq`). So what
arithmetic gives, if it is a normal number, is known by its value (`reading_pack_normal`).

A significand has at most 53 bits, and fewer only at the least exponent (`isCanonical_of_reading`).
-/
import Criteria.Decimal.Dyadic
import Criteria.Proofs.Number.Finite
import Criteria.Proofs.Number.Order

namespace Criteria

/-- The number that the parts of a float stand for. -/
def Decimal.Dyadic.value (d : Decimal.Dyadic) : ℚ :=
  (if d.negative then -1 else 1) * d.significand * 2 ^ d.exponent

/-- The number with the other sign. -/
def Decimal.Dyadic.neg (d : Decimal.Dyadic) : Decimal.Dyadic := { d with negative := !d.negative }

theorem Decimal.Dyadic.value_neg (d : Decimal.Dyadic) : d.neg.value = -d.value := by
  obtain ⟨negative, m, e⟩ := d
  cases negative <;> simp [neg, value]

namespace Number

open Float.Model (Format UnpackedFloat)
open Float.Model.UnpackedFloat (Sign packComponents unpackSign unpackExponent unpackMantissa)
open Decimal (Reading)

/-! ## The parts of a float as numbers -/

variable (b : BitVec Format.binary64.numBits)

theorem toNat_unpackMantissa : (unpackMantissa b).toNat = b.toNat % 2 ^ 52 := by
  simp [unpackMantissa, BitVec.extractLsb]

theorem toNat_unpackExponent : (unpackExponent b).toNat = b.toNat / 2 ^ 52 % 2 ^ 11 := by
  simp [unpackExponent, BitVec.extractLsb, Nat.shiftRight_eq_div_pow]

theorem toNat_unpackSign : (unpackSign b).toNat = b.toNat / 2 ^ 63 % 2 := by
  simp [unpackSign, BitVec.extractLsb, Nat.shiftRight_eq_div_pow]

/-- Whether a sign is minus. -/
def isMinus : Sign → Bool
  | .negative => true
  | .positive => false

/-- What a float is, from its parts. -/
def readingOfParts : UnpackedFloat → Reading
  | .notANumber => .nan
  | .infinity s => .infinite (isMinus s)
  | .zero s => .finite ⟨isMinus s, 0, Decimal.minExponent⟩
  | .finite s m e _ => .finite ⟨isMinus s, m, e⟩

theorem isMinus_ofBitVec (s : BitVec 1) : isMinus (Sign.ofBitVec s) = (s.toNat == 1) := by
  revert s; decide

/-- What a float is, is seen from its parts. -/
theorem reading_eq (x : Float) : Reading.ofFloat x = readingOfParts x.toModel.unpack := by
  let b : BitVec Format.binary64.numBits := x.toModel.toBits.toBitVec
  have hsign : (b.toNat / 2 ^ 63 % 2 == 1) = isMinus (.ofBitVec (unpackSign b)) := by
    rw [isMinus_ofBitVec, toNat_unpackSign]
  have hmantissa := toNat_unpackMantissa b
  have hexponent := toNat_unpackExponent b
  change Reading.ofBits b.toNat = readingOfParts (UnpackedFloat.unpack Format.binary64 b)
  rw [Reading.ofBits, UnpackedFloat.unpack]
  simp only [Decimal.fractionBits, Nat.pow_eq, ← hmantissa, ← hexponent, hsign]
  have hmax : (unpackExponent b).toNat = 0x7ff ↔ unpackExponent b = -1#_ :=
    ⟨fun h => BitVec.eq_of_toNat_eq h, fun h => by rw [h]; rfl⟩
  have hmin : (unpackExponent b).toNat = 0 ↔ unpackExponent b = 0#_ :=
    ⟨fun h => BitVec.eq_of_toNat_eq h, fun h => by rw [h]; rfl⟩
  have hzero : (unpackMantissa b).toNat = 0 ↔ unpackMantissa b = 0#_ :=
    ⟨fun h => BitVec.eq_of_toNat_eq h, fun h => by rw [h]; rfl⟩
  simp only [hmax, hmin, hzero]
  split
  · split <;> rfl
  · split
    · rename_i hexp
      have hnat : (unpackExponent b).toNat = 0 := hmin.mpr hexp
      split
      · rename_i hm
        rw [hzero.mpr hm]
        rfl
      · rw [hnat]
        rfl
    · rw [readingOfParts, toNat_significand]
      have hbias : ((Format.binary64.exponentBias : ℤ) +
          (Format.binary64.mantissaBitsWithoutImplicit : ℕ)) = 1075 := rfl
      have hexp : Decimal.minExponent + ((unpackExponent b).toNat : ℤ) - 1 =
          ((unpackExponent b).toNat : ℤ) - 1075 := by
        rw [Decimal.minExponent]
        omega
      rw [hbias, hexp, Nat.add_comm]

/-- A float is finite exactly if it is a number. -/
theorem isFinite_iff_exists_reading (x : Float) :
    x.isFinite = true ↔ ∃ d, Reading.ofFloat x = .finite d := by
  rw [reading_eq]
  change x.toModel.unpack.isFinite = true ↔ _
  cases x.toModel.unpack <;> simp [readingOfParts, UnpackedFloat.isFinite]

/-- The significand has at most 53 bits, and fewer only at the least exponent. -/
structure IsCanonical (d : Decimal.Dyadic) : Prop where
  significand_lt : d.significand < 2 ^ 53
  le_significand : d.exponent = Decimal.minExponent ∨ 2 ^ 52 ≤ d.significand
  le_exponent : Decimal.minExponent ≤ d.exponent

theorem IsCanonical.neg {d : Decimal.Dyadic} (h : IsCanonical d) : IsCanonical d.neg :=
  ⟨h.significand_lt, h.le_significand, h.le_exponent⟩

theorem isCanonical_of_reading {x : Float} {d : Decimal.Dyadic}
    (h : Reading.ofFloat x = .finite d) : IsCanonical d := by
  unfold Reading.ofFloat Reading.ofBits at h
  dsimp only at h
  have hfraction : x.toBits.toNat % Nat.pow 2 Decimal.fractionBits < 2 ^ 52 :=
    Nat.mod_lt _ (by decide)
  split at h
  · split at h <;> cases h
  · split at h
    · obtain rfl := Reading.finite.inj h
      exact ⟨hfraction.trans (by decide), .inl rfl, Int.le_refl _⟩
    · rename_i hmin
      obtain rfl := Reading.finite.inj h
      have hpow : Nat.pow 2 Decimal.fractionBits = 2 ^ 52 := rfl
      exact ⟨by dsimp only; omega, .inr (by dsimp only; omega), by dsimp only; omega⟩

/-! ## Numbers made from parts -/

theorem unpackSign_packComponents (s : Sign) (e : BitVec 11) (m : BitVec 52) :
    unpackSign (packComponents Format.binary64 s e m) = s.toBitVec := by
  have hnat : (packComponents Format.binary64 s e m).toNat =
      (s.toBitVec.toNat * 2 ^ 11 + e.toNat) * 2 ^ 52 + m.toNat := by
    have hse : (s.toBitVec ++ e).toNat = s.toBitVec.toNat * 2 ^ 11 + e.toNat := by
      rw [BitVec.toNat_append, ← Nat.shiftLeft_add_eq_or_of_lt e.isLt, Nat.shiftLeft_eq]
    rw [packComponents, BitVec.toNat_append, ← Nat.shiftLeft_add_eq_or_of_lt m.isLt,
      Nat.shiftLeft_eq, hse]
  have he := e.isLt
  have hm := m.isLt
  have hs := s.toBitVec.isLt
  apply BitVec.eq_of_toNat_eq
  rw [toNat_unpackSign, hnat]
  omega

/-- A normal number is packed into its sign, its exponent above the least one, and all bits of its
significand but the first. -/
theorem pack_normal (s : Sign) {m : ℕ} {e : ℤ} (hlow : 2 ^ 52 ≤ m) (hhigh : m < 2 ^ 53)
    (hmax : e < 972) :
    UnpackedFloat.pack Format.binary64 (.finite s m e (by omega)) =
      packComponents Format.binary64 s (BitVec.ofNat 11 (e + 1075).toNat) (BitVec.ofNat 52 m) := by
  have hlog : m.log2 + 1 = Format.binary64.mantissaBits := by
    have hle := (Nat.le_log2 (by omega : m ≠ 0) (k := 52)).mpr hlow
    have hlt := (Nat.log2_lt (by omega : m ≠ 0) (k := 53)).mpr hhigh
    change m.log2 + 1 = 53
    omega
  have hbias : (Format.binary64.exponentBias : ℤ) = 1023 := rfl
  have hbits : (Format.binary64.mantissaBitsWithoutImplicit : ℤ) = 52 := rfl
  rw [UnpackedFloat.pack]
  dsimp only
  rw [hbias, hbits, if_neg (by omega), if_pos hlog, Int.add_assoc]
  rfl

/-- A normal number is what its bits are taken apart into. -/
theorem unpack_pack_normal (s : Sign) {m : ℕ} {e : ℤ} (hlow : 2 ^ 52 ≤ m) (hhigh : m < 2 ^ 53)
    (hmin : -1074 ≤ e) (hmax : e < 972) :
    UnpackedFloat.unpack Format.binary64
        (UnpackedFloat.pack Format.binary64 (.finite s m e (by omega))) =
      .finite s m e (by omega) := by
  have hexponent : (BitVec.ofNat 11 (e + 1075).toNat).toNat = (e + 1075).toNat := by
    rw [BitVec.toNat_ofNat]
    omega
  have hnotMax : BitVec.ofNat 11 (e + 1075).toNat ≠ -1#_ := by
    intro h
    rw [h] at hexponent
    change 2047 = (e + 1075).toNat at hexponent
    omega
  have hnotMin : BitVec.ofNat 11 (e + 1075).toNat ≠ 0#_ := by
    intro h
    rw [h] at hexponent
    change 0 = (e + 1075).toNat at hexponent
    omega
  have hsign : Sign.ofBitVec s.toBitVec = s := by cases s <;> rfl
  have hm : (1#1 ++ BitVec.ofNat 52 m).toNat = m := by
    rw [toNat_significand, BitVec.toNat_ofNat]
    omega
  rw [pack_normal s hlow hhigh hmax, UnpackedFloat.unpack]
  simp only [Float.Model.UnpackedFloat.unpackExponent_packComponents,
    Float.Model.UnpackedFloat.unpackMantissa_packComponents, unpackSign_packComponents, hsign,
    if_neg hnotMax, if_neg hnotMin, hm]
  congr 1
  have hbias : (Format.binary64.exponentBias : ℤ) = 1023 := rfl
  have hbits : (Format.binary64.mantissaBitsWithoutImplicit : ℤ) = 52 := rfl
  rw [hexponent, hbias, hbits]
  omega

/-- A float made from the parts of a normal number has these parts. -/
theorem reading_pack_normal (s : Sign) {m : ℕ} {e : ℤ} (hlow : 2 ^ 52 ≤ m) (hhigh : m < 2 ^ 53)
    (hmin : -1074 ≤ e) (hmax : e < 972) :
    Reading.ofFloat (Float.ofModel (.pack (.finite s m e (by omega)))) =
      .finite ⟨isMinus s, m, e⟩ := by
  rw [reading_eq]
  exact congrArg readingOfParts (unpack_pack_normal s hlow hhigh hmin hmax)

end Number

end Criteria
