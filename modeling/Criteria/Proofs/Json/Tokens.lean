/-
# Criteria.Proofs.Json.Tokens — numbers and strings are read back

A string is read back character by character: whatever `escapeChar` puts for a character, one step of the
reader gives the character back (`readChars_escapeChar`), and a quote that is not escaped ends it.

A number has no mark at its end. What ends it is a character that could not go on with it, and in a
document there is always one, or nothing at all (`EndsNumber`). So a text that is a number by itself is the
same number in front of anything of that sort (`readNumber_append`), and what remains is to read numbers
that stand alone.
-/
import Criteria.Json.Reader
import Criteria.Json.Writer
import Criteria.Proofs.Text.Digits
import Criteria.Proofs.Text.Quoted
import Mathlib.Data.List.TakeWhile

namespace Criteria.Json

open Criteria.Text

/-! ## What ends a number -/

/-- What follows cannot go on with a number. -/
def EndsNumber (rest : List Char) : Prop :=
  ∀ c ∈ rest.head?, c.isDigit = false ∧ c ≠ '.' ∧ c ≠ 'e' ∧ c ≠ 'E'

variable {cs rest : List Char}

theorem span_digits_append (hrest : EndsNumber rest) (cs : List Char) :
    (cs ++ rest).takeWhile Char.isDigit = cs.takeWhile Char.isDigit ∧
      (cs ++ rest).dropWhile Char.isDigit = cs.dropWhile Char.isDigit ++ rest := by
  induction cs with
  | nil =>
      cases rest with
      | nil => exact ⟨rfl, rfl⟩
      | cons c rest =>
          have hc : c.isDigit = false := (hrest c rfl).1
          simp [hc]
  | cons c cs ih =>
      by_cases hc : c.isDigit = true
      · simp [hc, ih]
      · simp [hc]

theorem readDigits_append (hrest : EndsNumber rest) {ds after : List Char}
    (h : readDigits cs = some (ds, after)) :
    readDigits (cs ++ rest) = some (ds, after ++ rest) := by
  obtain ⟨htake, hdrop⟩ := span_digits_append hrest cs
  rw [readDigits, htake, hdrop]
  rw [readDigits] at h
  split at h
  · cases h
  · rename_i hds
    cases h
    rfl

theorem readWhole_append (hrest : EndsNumber rest) {ds after : List Char}
    (h : readWhole cs = some (ds, after)) : readWhole (cs ++ rest) = some (ds, after ++ rest) := by
  rw [readWhole] at h
  split at h
  · cases h
  · rename_i hds
    rw [readWhole, readDigits_append hrest h]
    split
    · rename_i heq
      cases heq
      exact absurd h (hds _ _ _)
    · rfl

theorem head?_append_of_ends (hrest : EndsNumber rest) (cs : List Char) {c : Char}
    (hc : c = '.' ∨ c = 'e' ∨ c = 'E') (h : (cs ++ rest).head? = some c) : cs.head? = some c := by
  cases cs with
  | nil =>
      obtain ⟨_, hpoint, he, hE⟩ := hrest c h
      rcases hc with rfl | rfl | rfl <;> contradiction
  | cons d cs => exact h

theorem readFraction_append (hrest : EndsNumber rest) {ds after : List Char}
    (h : readFraction cs = some (ds, after)) :
    readFraction (cs ++ rest) = some (ds, after ++ rest) := by
  unfold readFraction at h
  split at h
  · exact readDigits_append hrest h
  · rename_i hpoint
    cases h
    unfold readFraction
    split
    · rename_i more heq
      have hhead := head?_append_of_ends hrest cs (.inl rfl) (by rw [heq]; rfl)
      obtain ⟨tail, rfl⟩ := List.head?_eq_some_iff.mp hhead
      exact absurd rfl (hpoint tail)
    · rfl

theorem readPower_append (hrest : EndsNumber rest) {e : Int} {after : List Char}
    (h : readPower cs = some (e, after)) : readPower (cs ++ rest) = some (e, after ++ rest) := by
  have hdigits : ∀ {bs : List Char} (f : List Char → Int),
      (readDigits bs).map (fun p => (f p.1, p.2)) = some (e, after) →
        (readDigits (bs ++ rest)).map (fun p => (f p.1, p.2)) = some (e, after ++ rest) := by
    intro bs f hbs
    obtain ⟨⟨ds, more⟩, hds, heq⟩ := Option.map_eq_some_iff.mp hbs
    cases heq
    rw [readDigits_append hrest hds, Option.map_some]
  cases cs with
  | nil => cases h
  | cons c cs =>
      by_cases hplus : c = '+'
      · subst hplus
        exact hdigits (fun ds => (decimalNumber ds : Int)) h
      · by_cases hminus : c = '-'
        · subst hminus
          exact hdigits (fun ds => -(decimalNumber ds : Int)) h
        · have hread : ∀ bs, readPower (c :: bs) =
              (readDigits (c :: bs)).map fun p => ((decimalNumber p.1 : Int), p.2) := by
            intro bs
            rw [readPower]
            · rintro _ ⟨⟩; exact hplus rfl
            · rintro _ ⟨⟩; exact hminus rfl
          rw [hread] at h
          rw [List.cons_append, hread]
          exact hdigits (fun ds => (decimalNumber ds : Int)) h

theorem readExponent_append (hrest : EndsNumber rest) {e : Option Int} {after : List Char}
    (h : readExponent cs = some (e, after)) :
    readExponent (cs ++ rest) = some (e, after ++ rest) := by
  have hpower : ∀ {bs : List Char}, (readPower bs).map (fun p => (some p.1, p.2)) = some (e, after) →
      (readPower (bs ++ rest)).map (fun p => (some p.1, p.2)) = some (e, after ++ rest) := by
    intro bs hbs
    obtain ⟨⟨n, more⟩, hn, heq⟩ := Option.map_eq_some_iff.mp hbs
    cases heq
    rw [readPower_append hrest hn, Option.map_some]
  by_cases he : ∃ bs, cs = 'e' :: bs
  · obtain ⟨bs, rfl⟩ := he
    exact hpower h
  · by_cases hE : ∃ bs, cs = 'E' :: bs
    · obtain ⟨bs, rfl⟩ := hE
      exact hpower h
    · have hnone : ∀ {bs}, (∀ as, bs ≠ 'e' :: as) → (∀ as, bs ≠ 'E' :: as) →
          readExponent bs = some (none, bs) := by
        intro bs hbs hBs
        rw [readExponent]
        · exact hbs
        · exact hBs
      rw [hnone (fun as has => he ⟨as, has⟩) (fun as has => hE ⟨as, has⟩)] at h
      cases h
      refine hnone (fun as has => ?_) (fun as has => ?_)
      · have hhead := head?_append_of_ends hrest cs (.inr (.inl rfl)) (by rw [has]; rfl)
        exact he (List.head?_eq_some_iff.mp hhead)
      · have hhead := head?_append_of_ends hrest cs (.inr (.inr rfl)) (by rw [has]; rfl)
        exact hE (List.head?_eq_some_iff.mp hhead)

/-- The sign of a number, and what follows it. -/
def splitSign (cs : List Char) : Bool × List Char :=
  match cs with
  | '-' :: rest => (true, rest)
  | _ => (false, cs)

/-- The document for the parts of a number. -/
def ofParts? (negative : Bool) (whole fraction : List Char) (exponent : Option Int) :
    Option Json :=
  match fraction, exponent with
  | [], none => ofWhole? negative (decimalNumber whole)
  | _, _ =>
    (Decimal.nearestFloat? negative (decimalNumber (whole ++ fraction))
      (exponent.getD 0 - fraction.length)).map .float

/-- A number is read part by part. -/
theorem readNumber_eq (cs : List Char) :
    readNumber cs =
      (readWhole (splitSign cs).2).bind fun w =>
        (readFraction w.2).bind fun f =>
          (readExponent f.2).bind fun e =>
            (ofParts? (splitSign cs).1 w.1 f.1 e.1).map fun j => (j, e.2) := by
  unfold readNumber
  simp only [Option.bind_eq_bind]
  change (readWhole (splitSign cs).2).bind _ = _
  refine Option.bind_congr fun w _ => Option.bind_congr fun f _ => Option.bind_congr fun e _ => ?_
  obtain ⟨fraction, afterFraction⟩ := f
  obtain ⟨exponent, after⟩ := e
  cases fraction with
  | nil =>
      cases exponent with
      | none =>
          dsimp only [ofParts?]
          rw [List.append_nil]
          rfl
      | some e =>
          dsimp only [ofParts?]
          rw [Option.map_map]
          rfl
  | cons d ds =>
      dsimp only [ofParts?]
      rw [Option.map_map]
      rfl

theorem readNumber_eq_some_iff {j : Json} {after : List Char} :
    readNumber cs = some (j, after) ↔
      ∃ whole afterWhole fraction afterFraction exponent,
        readWhole (splitSign cs).2 = some (whole, afterWhole) ∧
          readFraction afterWhole = some (fraction, afterFraction) ∧
            readExponent afterFraction = some (exponent, after) ∧
              ofParts? (splitSign cs).1 whole fraction exponent = some j := by
  simp [readNumber_eq, Option.bind_eq_some_iff]

/-- A number is the same number in front of what ends a number. -/
theorem readNumber_append (hrest : EndsNumber rest) {j : Json} {after : List Char}
    (h : readNumber cs = some (j, after)) : readNumber (cs ++ rest) = some (j, after ++ rest) := by
  obtain ⟨whole, afterWhole, fraction, afterFraction, exponent, hwhole, hfraction, hexponent, hj⟩ :=
    readNumber_eq_some_iff.mp h
  have hsign : splitSign (cs ++ rest) = ((splitSign cs).1, (splitSign cs).2 ++ rest) := by
    cases cs with
    | nil => cases hwhole
    | cons c cs =>
        by_cases hc : c = '-'
        · subst hc
          rfl
        · simp [splitSign, hc]
  refine readNumber_eq_some_iff.mpr ⟨whole, afterWhole ++ rest, fraction, afterFraction ++ rest,
    exponent, ?_, readFraction_append hrest hfraction, readExponent_append hrest hexponent, ?_⟩
  · rw [hsign]
    exact readWhole_append hrest hwhole
  · rw [hsign]
    exact hj

/-! ## Whole numbers -/

theorem readDigits_of_all {ds : List Char} (hne : ds ≠ []) (h : ds.all Char.isDigit = true) :
    readDigits ds = some (ds, []) := by
  have hall : ∀ c ∈ ds, c.isDigit = true := List.all_eq_true.mp h
  rw [readDigits, List.takeWhile_eq_self_iff.mpr hall, List.dropWhile_eq_nil_iff.mpr hall]
  split
  · contradiction
  · rfl

theorem readWhole_toDigits (n : ℕ) :
    readWhole (Nat.toDigits 10 n) = some (Nat.toDigits 10 n, []) := by
  rw [readWhole, readDigits_of_all Nat.toDigits_ne_nil (all_isDigit_toDigits n)]
  split
  · rename_i heq
    -- more than one digit and a zero in front
    obtain ⟨hdigits, _⟩ := Prod.mk.inj (Option.some.inj heq)
    rcases Nat.eq_zero_or_pos n with rfl | hpos
    · rw [Nat.toDigits_zero] at hdigits
      cases hdigits
    · exact absurd (by rw [hdigits]; rfl) (head?_toDigits_ne_zero hpos)
  · rfl

theorem splitSign_toDigits (n : ℕ) :
    splitSign (Nat.toDigits 10 n) = (false, Nat.toDigits 10 n) := by
  unfold splitSign
  split
  · rename_i heq
    have hminus := List.all_eq_true.mp (all_isDigit_toDigits n) '-' (by rw [heq]; simp)
    exact absurd hminus (by decide)
  · rfl

/-- A whole number that 64 bits hold is read back. -/
theorem readNumber_integer {i : ℤ} (hlow : -2 ^ 63 ≤ i) (hhigh : i < 2 ^ 64) :
    readNumber i.repr.toList = some (.integer i, []) := by
  have hdigits : decimalNumber (Nat.toDigits 10 i.natAbs) = i.natAbs :=
    Nat.ofDigitChars_ten_toDigits
  rw [toList_repr_integer, readNumber_eq_some_iff]
  refine ⟨Nat.toDigits 10 i.natAbs, [], [], [], none, ?_, rfl, rfl, ?_⟩
  · split
    · exact readWhole_toDigits _
    · rw [List.nil_append, splitSign_toDigits]
      exact readWhole_toDigits _
  · split
    · change ofWhole? true (decimalNumber (Nat.toDigits 10 i.natAbs)) = _
      rw [hdigits, ofWhole?, if_neg (by simp), if_pos (by simp; omega)]
      congr
      omega
    · rw [List.nil_append, splitSign_toDigits]
      change ofWhole? false (decimalNumber (Nat.toDigits 10 i.natAbs)) = _
      rw [hdigits, ofWhole?, if_pos (by simp; omega)]
      congr
      omega

/-! ## Strings -/

/-- The escape of a character below the blank is read back. -/
theorem readCode_control {n : ℕ} (h : n < 32) (rest : List Char) :
    readCode ('0' :: '0' :: Nat.digitChar (n / 16) :: Nat.digitChar (n % 16) :: rest) =
      some (Char.ofNat n, rest) := by
  have hzero : hexDigit? '0' = some 0 := rfl
  have hnumber : hexNumber? ['0', '0', Nat.digitChar (n / 16), Nat.digitChar (n % 16)] =
      some n := by
    simp only [hexNumber?, hexNumberFrom?, hzero, hexDigit?_digitChar (show n / 16 < 16 by omega),
      hexDigit?_digitChar (show n % 16 < 16 by omega), Option.bind_some]
    congr
    omega
  have hlow : isLowHalf n = false := by
    simp [isLowHalf]
    omega
  have hhigh : isHighHalf n = false := by
    simp [isHighHalf]
    omega
  rw [readCode, readUnit, hnumber]
  simp [hlow, hhigh]

theorem readChars_backslash {fuel : ℕ} {c : Char} {cs rest : List Char}
    (h : readEscape cs = some (c, rest)) :
    readChars (fuel + 1) ('\\' :: cs) = (readChars fuel rest).map fun p => (c :: p.1, p.2) := by
  rw [readChars, h]

/-- What stands for a character in a string is read back as the character. -/
theorem readChars_escapeChar (fuel : ℕ) (c : Char) (rest : List Char) :
    readChars (fuel + 1) (escapeChar c ++ rest) =
      (readChars fuel rest).map fun p => (c :: p.1, p.2) := by
  unfold escapeChar
  split
  · rfl
  · rfl
  · rfl
  · rfl
  · rfl
  · rfl
  · rfl
  · rename_i hquote hbackslash _ _ _ _ _
    split
    · rename_i hcontrol
      have hread := readCode_control hcontrol rest
      rw [Char.ofNat_toNat] at hread
      exact readChars_backslash hread
    · rename_i hplain
      rw [List.singleton_append, readChars]
      · rw [if_neg hplain]
      · exact hquote
      · exact hbackslash

theorem readChars_escape (s rest : List Char) {fuel : ℕ} (hfuel : s.length < fuel) :
    readChars fuel (escape s ++ '"' :: rest) = some (s, rest) := by
  induction s generalizing fuel with
  | nil =>
      obtain ⟨fuel, rfl⟩ := Nat.exists_eq_succ_of_ne_zero (Nat.ne_of_gt hfuel)
      rfl
  | cons c s ih =>
      obtain ⟨fuel, rfl⟩ := Nat.exists_eq_succ_of_ne_zero (Nat.ne_of_gt (Nat.zero_lt_of_lt hfuel))
      rw [escape, List.append_assoc, readChars_escapeChar, ih (Nat.lt_of_succ_lt_succ hfuel),
        Option.map_some]

theorem readString_escape (s : String) (rest : List Char) {fuel : ℕ} (hfuel : s.toList.length < fuel) :
    readString fuel (escape s.toList ++ '"' :: rest) = some (s, rest) := by
  rw [readString, readChars_escape _ _ hfuel, Option.map_some, String.ofList_toList]

end Criteria.Json
