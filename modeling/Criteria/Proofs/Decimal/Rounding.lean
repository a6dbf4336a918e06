/-
# Criteria.Proofs.Decimal.Rounding — whole numbers nearest to a quotient

A whole number rounds a number if it is at most half a unit away, and even where it is just half a unit away
(`IsRounding`). No whole number is nearer then, and only an even one has another as near
(`IsRounding.le_abs_sub`, `IsRounding.even_of_abs_sub_eq`). Quotients of whole numbers are rounded in this
way (`isRounding_roundDiv`).
-/
import Criteria.Decimal.Fixed
import Mathlib

namespace Criteria.Decimal

/-- The whole number is the nearest to a number; of two equally near, it is the even one. -/
structure IsRounding (n : ℕ) (q : ℚ) : Prop where
  close : |(n : ℚ) - q| ≤ 1 / 2
  even : |(n : ℚ) - q| = 1 / 2 → Even n

namespace IsRounding

variable {n : ℕ} {q : ℚ}

theorem of_eq (h : (n : ℚ) = q) : IsRounding n q := by
  rw [← h]
  exact ⟨by norm_num, by norm_num⟩

/-- Another whole number is at least half a unit away. -/
theorem half_le_abs_sub (h : IsRounding n q) {k : ℤ} (hk : k ≠ n) : 1 / 2 ≤ |(k : ℚ) - q| := by
  have hunit : (1 : ℚ) ≤ |(k : ℚ) - n| := by
    exact_mod_cast Int.one_le_abs (sub_ne_zero.mpr hk)
  have htriangle := abs_sub_le (k : ℚ) q n
  rw [abs_sub_comm q] at htriangle
  linarith [h.close]

theorem le_abs_sub (h : IsRounding n q) (k : ℤ) : |(n : ℚ) - q| ≤ |(k : ℚ) - q| := by
  by_cases hk : k = n
  · rw [hk, Int.cast_natCast]
  · exact h.close.trans (h.half_le_abs_sub hk)

theorem even_of_abs_sub_eq (h : IsRounding n q) {k : ℤ} (hk : k ≠ n)
    (heq : |(n : ℚ) - q| = |(k : ℚ) - q|) : Even n :=
  h.even (le_antisymm h.close (heq ▸ h.half_le_abs_sub hk))

end IsRounding

/-- Whether a quotient is rounded can be seen without a fraction. -/
theorem isRounding_div_iff {n num den : ℕ} (hden : 0 < den) :
    IsRounding n (num / den) ↔
      2 * ((n * den : ℤ) - num).natAbs ≤ den ∧ (2 * ((n * den : ℤ) - num).natAbs = den → Even n) := by
  have hpos : (0 : ℚ) < den := by exact_mod_cast hden
  have habs : |(n : ℚ) - num / den| = (((n * den : ℤ) - num).natAbs : ℚ) / den := by
    rw [Nat.cast_natAbs, eq_div_iff hpos.ne']
    nth_rewrite 2 [← abs_of_pos hpos]
    rw [← abs_mul, sub_mul, div_mul_cancel₀ _ hpos.ne']
    push_cast
    rfl
  have hle : ∀ a : ℕ, (a : ℚ) / den ≤ 1 / 2 ↔ 2 * a ≤ den := by
    intro a
    rw [div_le_div_iff₀ hpos two_pos, one_mul, mul_comm]
    exact_mod_cast Iff.rfl
  have heq : ∀ a : ℕ, (a : ℚ) / den = 1 / 2 ↔ 2 * a = den := by
    intro a
    rw [div_eq_div_iff hpos.ne' two_ne_zero, one_mul, mul_comm]
    exact_mod_cast Iff.rfl
  rw [← hle, ← heq, ← habs]
  exact ⟨fun h => ⟨h.close, h.even⟩, fun h => ⟨h.1, h.2⟩⟩

/-- A quotient is rounded. -/
theorem isRounding_roundDiv (num : ℕ) {den : ℕ} (hden : 0 < den) :
    IsRounding (roundDiv num den) (num / den) := by
  obtain ⟨q, hq⟩ : ∃ q, num / den = q := ⟨_, rfl⟩
  obtain ⟨r, hr⟩ : ∃ r, num % den = r := ⟨_, rfl⟩
  have hnum : (num : ℤ) = q * den + r := by
    rw [← hq, ← hr]
    exact_mod_cast (Nat.div_add_mod' num den).symm
  have hlt : r < den := hr ▸ Nat.mod_lt num hden
  have hbelow : ((q * den : ℤ) - num).natAbs = r := by omega
  have habove : (((q + 1 : ℕ) * den : ℤ) - num).natAbs = den - r := by
    rw [Nat.cast_add_one, add_one_mul]
    omega
  rw [isRounding_div_iff hden, roundDiv, hq, hr, Nat.even_iff]
  split
  · rw [hbelow]
    omega
  · split
    · rw [habove]
      omega
    · -- halfway
      split
      · rw [hbelow]
        omega
      · rw [habove]
        omega

end Criteria.Decimal
