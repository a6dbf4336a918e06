/-
# Criteria.Proofs.Number.Finite — which floats are finite

A float is finite unless its exponent is the greatest one. A number has that exponent only if it is too
great for the format, so the sign does not matter (`isFinite_neg`), and what is read from a decimal number
is finite because numbers beyond the greatest float are refused (`isFinite_of_nearestFloat?`).
-/
import Criteria.Decimal.Reading
import Mathlib

namespace Criteria.Number

open Float.Model (Format UnpackedFloat)
open Float.Model.UnpackedFloat (packedZero unpackExponent unpackMantissa)

/-! ## Packing and unpacking -/

/-- The number is not too great for a float. -/
def Fits : UnpackedFloat → Prop
  | .zero _ => True
  | .finite _ _ e _ => e < 972
  | _ => False

theorem isFinite_unpack_iff (b : BitVec Format.binary64.numBits) :
    (UnpackedFloat.unpack Format.binary64 b).isFinite = true ↔ unpackExponent b ≠ -1#_ := by
  rw [UnpackedFloat.unpack]
  by_cases hmax : unpackExponent b = -1#_
  · rw [if_pos hmax]
    by_cases hzero : unpackMantissa b = 0#_ <;> simp [hzero, hmax, UnpackedFloat.isFinite]
  · rw [if_neg hmax]
    refine iff_of_true ?_ hmax
    by_cases hmin : unpackExponent b = 0#_
    · rw [if_pos hmin]
      by_cases hzero : unpackMantissa b = 0#_ <;> simp [hzero, UnpackedFloat.isFinite]
    · rw [if_neg hmin, UnpackedFloat.isFinite]

/-- A float made from a number that fits is finite. -/
theorem isFinite_pack {u : UnpackedFloat} (h : Fits u) :
    (Float.ofModel (.pack u)).isFinite = true := by
  refine (isFinite_unpack_iff (UnpackedFloat.pack Format.binary64 u)).mpr ?_
  cases u with
  | infinity s => exact h.elim
  | notANumber => exact h.elim
  | zero s =>
      rw [UnpackedFloat.pack, packedZero, Float.Model.UnpackedFloat.unpackExponent_packComponents]
      decide
  | finite s m e hm =>
      have he : e < 972 := h
      have hbias : (e + (Format.binary64.exponentBias : ℕ) +
          (Format.binary64.mantissaBitsWithoutImplicit : ℕ)).toNat < 2047 := by
        have hvalue : (Format.binary64.exponentBias : ℤ) = 1023 := rfl
        rw [hvalue]
        dsimp only
        omega
      rw [UnpackedFloat.pack]
      dsimp only at hbias ⊢
      rw [if_neg (by omega)]
      split
      · rw [Float.Model.UnpackedFloat.unpackExponent_packComponents]
        intro hmax
        have hnat := congrArg BitVec.toNat hmax
        rw [BitVec.toNat_ofNat, Nat.mod_eq_of_lt (by omega)] at hnat
        exact absurd hnat hbias.ne
      · rw [Float.Model.UnpackedFloat.unpackExponent_packComponents]
        decide

/-- A finite float is a number that fits. -/
theorem fits_unpack {x : Float} (h : x.isFinite = true) : Fits x.toModel.unpack := by
  let b : BitVec Format.binary64.numBits := x.toModel.toBits.toBitVec
  have hexponent : unpackExponent b ≠ -1#_ := (isFinite_unpack_iff b).mp h
  have hlt : (unpackExponent b).toNat < 2047 := by
    have hle : (unpackExponent b).toNat < 2 ^ 11 := (unpackExponent b).isLt
    have hne : (unpackExponent b).toNat ≠ 2 ^ 11 - 1 :=
      fun hmax => hexponent (BitVec.eq_of_toNat_eq hmax)
    omega
  have hbias : ((Format.binary64.exponentBias : ℤ) +
      (Format.binary64.mantissaBitsWithoutImplicit : ℕ)) = 1075 := rfl
  change Fits (UnpackedFloat.unpack Format.binary64 b)
  rw [UnpackedFloat.unpack, if_neg hexponent, hbias]
  split
  · rename_i hmin
    -- the exponent of a subnormal is counted from one, not from zero
    have hzero : (unpackExponent b).toNat = 0 := congrArg BitVec.toNat hmin
    split
    · trivial
    · change _ < (972 : ℤ)
      omega
  · change _ < (972 : ℤ)
    omega

theorem isFinite_neg {x : Float} (h : x.isFinite = true) : (-x).isFinite = true := by
  refine isFinite_pack (u := x.toModel.unpack.neg) ?_
  have hfits := fits_unpack h
  cases hx : x.toModel.unpack with
  | infinity s => rw [hx] at hfits; exact hfits.elim
  | notANumber => rw [hx] at hfits; exact hfits.elim
  | zero s => trivial
  | finite s m e hm => rw [hx] at hfits; exact hfits

/-! ## Decimal numbers -/

/-- The float nearest to a decimal number is finite. -/
theorem isFinite_of_nearestFloat? {negative : Bool} {units : ℕ} {power : ℤ} {x : Float}
    (h : Decimal.nearestFloat? negative units power = some x) : x.isFinite = true := by
  have hsign : ∀ {y : Float}, y.isFinite = true →
      (if negative then -y else y).isFinite = true := by
    intro y hy
    cases negative with
    | false => exact hy
    | true => exact isFinite_neg hy
  unfold Decimal.nearestFloat? at h
  dsimp only at h
  split at h
  · obtain rfl := Option.some.inj h
    exact hsign (by rfl)
  · split at h
    · cases h
    · split at h
      · rename_i hfinite
        obtain rfl := Option.some.inj h
        exact hsign hfinite
      · cases h

end Criteria.Number
