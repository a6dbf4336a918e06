/-
# Criteria.Proofs.Decimal.Fixed — what a text with a fixed number of places says

The digits of a finite float count units of the last place, and they count the number of units nearest to
the exact value of the float (`fixed_rounds`). The point is always there, with so many digits behind it,
and the sign is that of the float.

Texts lose what is below the last place and nothing else: floats with one text are the same, or both are
finite, of one sign, and round to the same number of units (`fixed_eq_fixed_iff`), so that they differ by
one unit at most (`abs_value_sub_le_of_fixed_eq`).
-/
import Criteria.Proofs.Decimal.Rounding
import Criteria.Proofs.Number.Exact
import Criteria.Proofs.Text.Boundaries
import Criteria.Proofs.Text.Digits

namespace Criteria.Decimal

variable {d e : Dyadic} {places : ℕ} {x y : Float}

/-! ## The units -/

theorem Dyadic.abs_value (d : Dyadic) : |d.value| = d.significand * 2 ^ d.exponent := by
  have hpos : (0 : ℚ) ≤ d.significand * 2 ^ d.exponent := by positivity
  rw [value, mul_assoc, abs_mul, abs_of_nonneg hpos]
  cases d.negative <;> simp

/-- The units of a number round its magnitude. -/
theorem isRounding_units (d : Dyadic) (places : ℕ) :
    IsRounding (d.units places) (|d.value| * 10 ^ places) := by
  rw [Dyadic.abs_value, Dyadic.units]
  split
  · rename_i hexponent
    obtain ⟨k, hk⟩ := Int.eq_ofNat_of_zero_le hexponent
    refine .of_eq ?_
    rw [hk, zpow_natCast, Int.toNat_natCast, Nat.pow_eq, Nat.pow_eq]
    push_cast
    rfl
  · rename_i hexponent
    obtain ⟨k, hk⟩ : ∃ k : ℕ, d.exponent = -k := ⟨(-d.exponent).toNat, by omega⟩
    have hquotient : (d.significand * 2 ^ d.exponent * 10 ^ places : ℚ) =
        ((d.significand * 10 ^ places : ℕ) : ℚ) / ((2 ^ k : ℕ) : ℚ) := by
      rw [hk, zpow_neg, zpow_natCast]
      push_cast
      ring
    rw [hquotient, hk, neg_neg, Int.toNat_natCast]
    exact isRounding_roundDiv _ (Nat.two_pow_pos k)

/-! ## The digits -/

theorem toList_padded (count n : ℕ) :
    (padded count n).toList =
      List.replicate (count - (Nat.toDigits 10 n).length) '0' ++ Nat.toDigits 10 n := by
  rw [padded, String.toList_ofList]

theorem all_isDigit_padded (count n : ℕ) : (padded count n).toList.all Char.isDigit = true := by
  have hzeros : ∀ k, (List.replicate k '0').all Char.isDigit = true := fun k =>
    List.all_eq_true.mpr fun c hc => by rw [(List.mem_replicate.mp hc).2]; rfl
  rw [toList_padded, List.all_append, hzeros, all_isDigit_toDigits]
  rfl

/-- Leading zeros do not count. -/
theorem ofDigitChars_padded (count n : ℕ) : Nat.ofDigitChars 10 (padded count n).toList 0 = n := by
  rw [toList_padded, Nat.ofDigitChars_append, Nat.ofDigitChars_replicate_zero, Nat.mul_zero,
    Nat.ofDigitChars_ten_toDigits]

theorem length_padded {count n : ℕ} (hcount : 0 < count) (hn : n < 10 ^ count) :
    (padded count n).toList.length = count := by
  have hlen := (Nat.length_toDigits_le_iff (by omega) hcount).mpr hn
  rw [toList_padded, List.length_append, List.length_replicate]
  omega

theorem toList_pointed (places units : ℕ) :
    (pointed places units).toList = Nat.toDigits 10 (units / 10 ^ places) ++
      '.' :: (padded places (units % 10 ^ places)).toList := by
  rw [pointed, String.toList_append, String.toList_append, Nat.toList_repr, List.append_assoc]
  rfl

/-- The digits on both sides of the point, read as one number, are the units. -/
theorem ofDigitChars_pointed (hplaces : 0 < places) (units : ℕ) :
    Nat.ofDigitChars 10 (Nat.toDigits 10 (units / 10 ^ places) ++
      (padded places (units % 10 ^ places)).toList) 0 = units := by
  have hlen := length_padded hplaces (Nat.mod_lt units (Nat.pow_pos (by decide : 0 < 10)))
  rw [Nat.ofDigitChars_append, Nat.ofDigitChars_ten_toDigits, Nat.ofDigitChars_eq_ofDigitChars_zero,
    hlen, ofDigitChars_padded, Nat.div_add_mod]

theorem pointed_injective (places : ℕ) : Function.Injective (pointed places) := by
  intro m n h
  have hlist := congrArg String.toList h
  rw [toList_pointed, toList_pointed] at hlist
  -- the whole digits end at the point
  obtain ⟨hwhole, hrest⟩ := Text.run_append_inj (List.all_eq_true.mp (all_isDigit_toDigits _))
    (List.all_eq_true.mp (all_isDigit_toDigits _)) (by decide) (by decide) hlist
  have hdiv := congrArg (fun cs => Nat.ofDigitChars 10 cs 0) hwhole
  have hmod := congrArg (fun cs => Nat.ofDigitChars 10 cs 0) (List.cons.inj hrest).2
  rw [Nat.ofDigitChars_ten_toDigits, Nat.ofDigitChars_ten_toDigits] at hdiv
  rw [ofDigitChars_padded, ofDigitChars_padded] at hmod
  rw [← Nat.div_add_mod m (10 ^ places), hdiv, hmod, Nat.div_add_mod]

/-- A number with a point begins with a digit. -/
theorem exists_pointed_eq_cons (places units : ℕ) :
    ∃ c cs, (pointed places units).toList = c :: cs ∧ c.isDigit = true := by
  obtain ⟨c, cs, hcs⟩ := List.exists_cons_of_ne_nil
    (Nat.toDigits_ne_nil (n := units / 10 ^ places) (b := 10))
  refine ⟨c, _, by rw [toList_pointed, hcs, List.cons_append], ?_⟩
  exact List.all_eq_true.mp (all_isDigit_toDigits (units / 10 ^ places)) c
    (hcs ▸ List.mem_cons_self)

/-! ## The texts of floats -/

/-- The sign of a number in its text. -/
def signText (negative : Bool) : String := if negative then "-" else ""

theorem fixed_of_reading (hx : Reading.ofFloat x = .finite d) :
    fixed places x = signText d.negative ++ pointed places (d.units places) := by
  rw [fixed, hx]
  rfl

/-- The sign ends at the first digit. -/
theorem signed_pointed_inj {negative negative' : Bool} {m n : ℕ}
    (h : signText negative ++ pointed places m = signText negative' ++ pointed places n) :
    negative = negative' ∧ m = n := by
  have hlist := congrArg String.toList h
  obtain ⟨c, cs, hm, hc⟩ := exists_pointed_eq_cons places m
  obtain ⟨c', cs', hn, hc'⟩ := exists_pointed_eq_cons places n
  have hne : ∀ {c : Char}, c.isDigit = true → c ≠ '-' := by
    rintro _ h rfl
    cases h
  rw [String.toList_append, String.toList_append, hm, hn] at hlist
  cases negative <;> cases negative'
  · exact ⟨rfl, pointed_injective places (String.toList_inj.mp (by rw [hm, hn]; exact hlist))⟩
  · exact absurd (List.cons.inj hlist).1 (hne hc)
  · exact absurd (List.cons.inj hlist).1.symm (hne hc')
  · refine ⟨rfl, pointed_injective places (String.toList_inj.mp ?_)⟩
    rw [hm, hn]
    exact (List.cons.inj hlist).2

/-- **A finite float is written as the nearest number with so many places.** The text is a minus, if the
float has one, the digits before the point, the point, and so many digits behind it. All digits, read as
one number, count the units of the last place that are nearest to the magnitude of the float; of two
counts equally near, it is the even one. -/
theorem fixed_rounds (hplaces : 0 < places) (hx : Reading.ofFloat x = .finite d) :
    ∃ whole fraction : List Char,
      (fixed places x).toList = (if d.negative then ['-'] else []) ++ (whole ++ '.' :: fraction) ∧
        whole ≠ [] ∧ (whole ++ fraction).all Char.isDigit = true ∧ fraction.length = places ∧
        IsRounding (Nat.ofDigitChars 10 (whole ++ fraction) 0) (|d.value| * 10 ^ places) := by
  refine ⟨Nat.toDigits 10 (d.units places / 10 ^ places),
    (padded places (d.units places % 10 ^ places)).toList, ?_, Nat.toDigits_ne_nil, ?_,
    length_padded hplaces (Nat.mod_lt _ (Nat.pow_pos (by decide))), ?_⟩
  · rw [fixed_of_reading hx, String.toList_append, toList_pointed]
    cases d.negative <;> rfl
  · rw [List.all_append, all_isDigit_toDigits, all_isDigit_padded]
    rfl
  · rw [ofDigitChars_pointed hplaces]
    exact isRounding_units d places

/-- No finite float is written as one that is not. -/
theorem fixed_ne_of_reading (hx : Reading.ofFloat x = .finite d)
    (hy : ∀ e, Reading.ofFloat y ≠ .finite e) : fixed places x ≠ fixed places y := by
  have hpoint : '.' ∈ (fixed places x).toList := by
    rw [fixed_of_reading hx, String.toList_append, toList_pointed]
    simp
  have hnone : '.' ∉ (fixed places y).toList := by
    rw [fixed]
    split
    · decide
    · split <;> decide
    · rename_i e he
      exact absurd he (hy e)
  intro h
  rw [h] at hpoint
  exact hnone hpoint

/-- What a float is that is not finite, from its text. -/
def readingOfName? : String → Option Reading
  | "NaN" => some .nan
  | "inf" => some (.infinite false)
  | "-inf" => some (.infinite true)
  | _ => none

theorem readingOfName?_fixed (hx : ∀ d, Reading.ofFloat x ≠ .finite d) :
    readingOfName? (fixed places x) = some (Reading.ofFloat x) := by
  rw [fixed]
  split
  · rename_i h
    rw [h]
    rfl
  · rename_i negative h
    rw [h]
    cases negative <;> rfl
  · rename_i d h
    exact absurd h (hx d)

/-- Two floats have one text exactly if they are the same, NaN like any other, or if both are finite, of
one sign, and have equally many units. -/
theorem fixed_eq_fixed_iff :
    fixed places x = fixed places y ↔ Reading.ofFloat x = Reading.ofFloat y ∨
      ∃ d e, Reading.ofFloat x = .finite d ∧ Reading.ofFloat y = .finite e ∧
        d.negative = e.negative ∧ d.units places = e.units places := by
  constructor
  · intro h
    by_cases hx : ∃ d, Reading.ofFloat x = .finite d <;>
      by_cases hy : ∃ e, Reading.ofFloat y = .finite e
    · obtain ⟨d, hd⟩ := hx
      obtain ⟨e, he⟩ := hy
      rw [fixed_of_reading hd, fixed_of_reading he] at h
      exact .inr ⟨d, e, hd, he, signed_pointed_inj h⟩
    · obtain ⟨d, hd⟩ := hx
      exact absurd h (fixed_ne_of_reading hd (not_exists.mp hy))
    · obtain ⟨e, he⟩ := hy
      exact absurd h.symm (fixed_ne_of_reading he (not_exists.mp hx))
    · have hreading : readingOfName? (fixed places x) = some (Reading.ofFloat x) :=
        readingOfName?_fixed (not_exists.mp hx)
      rw [h, readingOfName?_fixed (not_exists.mp hy)] at hreading
      exact .inl (Option.some.inj hreading).symm
  · rintro (h | ⟨d, e, hd, he, hsign, hunits⟩)
    · rw [fixed, fixed, h]
    · rw [fixed_of_reading hd, fixed_of_reading he, hsign, hunits]

/-- Two finite floats with one text differ by one unit of the last place at most. -/
theorem abs_value_sub_le_of_fixed_eq (hx : Reading.ofFloat x = .finite d)
    (hy : Reading.ofFloat y = .finite e) (h : fixed places x = fixed places y) :
    |d.value - e.value| * 10 ^ places ≤ 1 := by
  rw [fixed_of_reading hx, fixed_of_reading hy] at h
  obtain ⟨hsign, hunits⟩ := signed_pointed_inj h
  have hd := (isRounding_units d places).close
  have he := (isRounding_units e places).close
  rw [hunits, abs_sub_comm] at hd
  have habs : |d.value - e.value| = |(|d.value| - |e.value|)| := by
    rw [Dyadic.abs_value, Dyadic.abs_value, Dyadic.value, Dyadic.value, hsign, mul_assoc, mul_assoc,
      ← mul_sub, abs_mul]
    cases e.negative <;> simp
  have hscale : |(|d.value| - |e.value|)| * 10 ^ places =
      |(|d.value| * 10 ^ places - |e.value| * 10 ^ places)| := by
    rw [← sub_mul, abs_mul, abs_of_pos (by positivity : (0 : ℚ) < 10 ^ places)]
  rw [habs, hscale]
  linarith [abs_sub_le (|d.value| * 10 ^ places) (e.units places : ℚ) (|e.value| * 10 ^ places)]

end Criteria.Decimal
