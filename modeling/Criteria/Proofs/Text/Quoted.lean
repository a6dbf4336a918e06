/-
# Criteria.Proofs.Text.Quoted — a quoted text can be told from what follows it

Every character of a text is written as a code of its own: itself, or a backslash and an escape. The
codes are read back one by one (`readEscape?`), no code begins with a quote, and so the first quote
that begins a code is the end of the text. That is `quote_append_inj`: a quoted text in front of any
other text determines both.

A code never holds a control character, whatever the text holds (`isControl_of_mem_quote`).
-/
import Criteria.Proofs.Text.Boundaries
import Criteria.Text.Hexadecimal
import Criteria.Text.Quoted
import Mathlib.Tactic.IntervalCases

namespace Criteria.Text

/-! ## Hexadecimal digits -/

theorem hexDigit?_digitChar {n : Nat} (h : n < 16) : hexDigit? n.digitChar = some n := by
  interval_cases n <;> decide

theorem hexNumberFrom?_append (value : Nat) (ds es : List Char) :
    hexNumberFrom? value (ds ++ es) =
      (hexNumberFrom? value ds).bind fun v => hexNumberFrom? v es := by
  induction ds generalizing value with
  | nil => rfl
  | cons d ds ih =>
      simp only [List.cons_append, hexNumberFrom?, Option.bind_assoc, ih]

/-- The digits of a number are read back as the number. -/
theorem hexNumberFrom?_toDigits (n : Nat) : hexNumberFrom? 0 (Nat.toDigits 16 n) = some n := by
  induction n using Nat.strongRecOn with
  | ind n ih =>
      by_cases h : n < 16
      · rw [Nat.toDigits_of_lt_base h]
        simp [hexNumberFrom?, hexDigit?_digitChar h]
      · -- the digits of the quotient come first, the remainder is the last digit
        have hq := ih (n / 16) (by omega)
        have hr : n % 16 < 16 := Nat.mod_lt _ (by omega)
        rw [Nat.toDigits_of_base_le (by omega) (by omega), hexNumberFrom?_append, hq]
        simp only [Option.bind_some, hexNumberFrom?, hexDigit?_digitChar hr, Option.some.injEq]
        omega

theorem hexNumber?_toDigits (n : Nat) : hexNumber? (Nat.toDigits 16 n) = some n := by
  cases hd : Nat.toDigits 16 n with
  | nil => exact absurd hd Nat.toDigits_ne_nil
  | cons d ds =>
      rw [hexNumber?, ← hd]
      · exact hexNumberFrom?_toDigits n
      · simp

/-- A character in a row that is read as a number is a digit. -/
theorem hexDigit?_isSome_of_mem {value n : Nat} {c : Char} {ds : List Char}
    (h : hexNumberFrom? value ds = some n) (hc : c ∈ ds) : (hexDigit? c).isSome = true := by
  induction ds generalizing value with
  | nil => simp at hc
  | cons d ds ih =>
      obtain ⟨v, hv, hrest⟩ := Option.bind_eq_some_iff.mp h
      rcases List.mem_cons.mp hc with rfl | hc
      · rw [hv]; rfl
      · exact ih hrest hc

theorem hexDigit?_isSome_of_mem_toDigits {n : Nat} {c : Char} (hc : c ∈ Nat.toDigits 16 n) :
    (hexDigit? c).isSome = true :=
  hexDigit?_isSome_of_mem (hexNumberFrom?_toDigits n) hc

theorem toNat_of_hexDigit? {c : Char} (h : (hexDigit? c).isSome = true) :
    48 ≤ c.toNat ∧ c.toNat ≤ 102 := by
  have hchar : ∀ a b : Char, a ≤ b ↔ a.toNat ≤ b.toNat := fun _ _ => Iff.rfl
  simp only [hexDigit?, hchar] at h
  split at h
  · rename_i hd
    exact ⟨hd.1, hd.2.trans (by decide)⟩
  · split at h
    · rename_i hd
      exact ⟨le_trans (by decide) hd.1, hd.2⟩
    · split at h
      · rename_i hd
        exact ⟨le_trans (by decide) hd.1, hd.2.trans (by decide)⟩
      · cases h

theorem isControl_eq_false_of_toNat {c : Char} (h : 32 ≤ c.toNat ∧ c.toNat < 127) :
    isControl c = false := by
  simp only [isControl, Bool.or_eq_false_iff, Bool.and_eq_false_iff, decide_eq_false_iff_not]
  omega

/-- No digit closes an escape, and none is a control character. -/
theorem mem_toDigits {n : Nat} {c : Char} (hc : c ∈ Nat.toDigits 16 n) :
    (c != '\x7d') = true ∧ isControl c = false := by
  have hd := toNat_of_hexDigit? (hexDigit?_isSome_of_mem_toDigits hc)
  refine ⟨?_, isControl_eq_false_of_toNat (by omega)⟩
  rw [bne_iff_ne]
  rintro rfl
  exact absurd hd.2 (by decide)

/-! ## One character -/

/-- The character that an escape stands for, and what follows the escape. The backslash in front is
already taken off. -/
def readEscape? : List Char → Option (Char × List Char)
  | '"' :: rest => some ('"', rest)
  | '\\' :: rest => some ('\\', rest)
  | '0' :: rest => some ('\x00', rest)
  | 't' :: rest => some ('\t', rest)
  | 'n' :: rest => some ('\n', rest)
  | 'r' :: rest => some ('\r', rest)
  | 'u' :: '\x7b' :: rest =>
    (hexNumber? (rest.takeWhile (· != '\x7d'))).map fun n =>
      (Char.ofNat n, (rest.dropWhile (· != '\x7d')).drop 1)
  | _ => none

theorem readEscape?_escapeCode (c : Char) (x : List Char) :
    readEscape? ((escapeCode c).tail ++ x) = some (c, x) := by
  have hin : ∀ k ∈ Nat.toDigits 16 c.toNat, (k != '\x7d') = true := fun k hk => (mem_toDigits hk).1
  simp [escapeCode, readEscape?, List.append_assoc, List.takeWhile_append_of_pos hin,
    List.dropWhile_append_of_pos hin, hexNumber?_toDigits]

/-- The escape of a character is read back as the character, whatever follows. -/
theorem readEscape?_escapeChar (c : Char) (x : List Char) :
    readEscape? ((escapeChar c).tail ++ x) = some (c, x) := by
  unfold escapeChar
  split
  -- all but the last case are characters with a letter of their own
  case h_7 => exact readEscape?_escapeCode c x
  all_goals rfl

theorem escapeChar_eq_cons (c : Char) : escapeChar c = '\\' :: (escapeChar c).tail := by
  unfold escapeChar
  split
  all_goals rfl

/-- What a character of a quoted text is written as. -/
def code (c : Char) : List Char := if isSpecial c then escapeChar c else [c]

theorem code_of_special {c : Char} (h : isSpecial c = true) :
    code c = '\\' :: (escapeChar c).tail := by
  rw [code, if_pos h, ← escapeChar_eq_cons]

theorem code_of_not_special {c : Char} (h : isSpecial c = false) : code c = [c] := by
  rw [code, h]
  rfl

/-- A character that stands for itself is no backslash, and so begins no escape. -/
theorem code_append_ne_of_special {c d : Char} (hc : isSpecial c = true) (hd : isSpecial d = false)
    (x y : List Char) : code c ++ x ≠ code d ++ y := by
  intro h
  rw [code_of_special hc, code_of_not_special hd, List.cons_append, List.cons_append,
    List.cons.injEq] at h
  rw [← h.1] at hd
  cases hd

/-- A code in front of any text determines its character and the text. -/
theorem code_append_inj {c d : Char} {x y : List Char} (h : code c ++ x = code d ++ y) :
    c = d ∧ x = y := by
  cases hc : isSpecial c with
  | true =>
      cases hd : isSpecial d with
      | true =>
          rw [code_of_special hc, code_of_special hd, List.cons_append, List.cons_append,
            List.cons.injEq] at h
          have hread := congrArg readEscape? h.2
          rw [readEscape?_escapeChar, readEscape?_escapeChar, Option.some.injEq,
            Prod.mk.injEq] at hread
          exact hread
      | false => exact absurd h (code_append_ne_of_special hc hd x y)
  | false =>
      cases hd : isSpecial d with
      | true => exact absurd h.symm (code_append_ne_of_special hd hc y x)
      | false =>
          rw [code_of_not_special hc, code_of_not_special hd] at h
          simpa using h

theorem code_append_ne_quote {c : Char} {x y : List Char} : code c ++ x ≠ '"' :: y := by
  intro h
  cases hc : isSpecial c with
  | true =>
      rw [code_of_special hc, List.cons_append, List.cons.injEq] at h
      exact absurd h.1 (by decide)
  | false =>
      rw [code_of_not_special hc, List.cons_append, List.cons.injEq] at h
      rw [h.1] at hc
      cases hc

/-- Apart from the digits, an escaped code point holds four characters only. -/
theorem mem_escapeCode {c k : Char} (h : k ∈ escapeCode c) :
    k ∈ ['\\', 'u', '\x7b', '\x7d'] ∨ k ∈ Nat.toDigits 16 c.toNat := by
  simp only [escapeCode, List.mem_cons, List.mem_append, List.not_mem_nil, or_false] at h ⊢
  tauto

theorem isControl_of_mem_escapeChar {c k : Char} (h : k ∈ escapeChar c) : isControl k = false := by
  unfold escapeChar at h
  split at h
  case h_7 =>
    rcases mem_escapeCode h with h | h
    · simp only [List.mem_cons, List.not_mem_nil, or_false] at h
      rcases h with rfl | rfl | rfl | rfl <;> decide
    · exact (mem_toDigits h).2
  all_goals
    simp only [List.mem_cons, List.not_mem_nil, or_false] at h
    rcases h with rfl | rfl <;> decide

theorem isControl_of_mem_code {c k : Char} (h : k ∈ code c) : isControl k = false := by
  cases hc : isSpecial c with
  | true =>
      rw [code, if_pos hc] at h
      exact isControl_of_mem_escapeChar h
  | false =>
      rw [code_of_not_special hc, List.mem_singleton] at h
      subst h
      simp only [isSpecial, Bool.or_eq_false_iff] at hc
      exact hc.2

/-! ## A whole text -/

theorem escapeWith_isSpecial (s : List Char) : escapeWith isSpecial s = s.flatMap code := by
  induction s with
  | nil => rfl
  | cons c s ih => rw [escapeWith, ih, List.flatMap_cons, code]

theorem toList_quote (s : String) :
    (quote s).toList = '"' :: (s.toList.flatMap code ++ ['"']) := by
  rw [quote, quoteWith, String.toList_ofList, escapeWith_isSpecial]

/-- The codes of a text, ended by a quote, in front of any other text determine both. -/
theorem flatMap_code_append_inj {s t x y : List Char}
    (h : s.flatMap code ++ '"' :: x = t.flatMap code ++ '"' :: y) : s = t ∧ x = y := by
  induction s generalizing t with
  | nil =>
      cases t with
      | nil => simpa using h
      | cons d t =>
          rw [List.flatMap_cons, List.append_assoc] at h
          exact absurd h.symm code_append_ne_quote
  | cons c s ih =>
      cases t with
      | nil =>
          rw [List.flatMap_cons, List.append_assoc] at h
          exact absurd h code_append_ne_quote
      | cons d t =>
          rw [List.flatMap_cons, List.flatMap_cons, List.append_assoc, List.append_assoc] at h
          obtain ⟨hcd, hrest⟩ := code_append_inj h
          obtain ⟨hst, hxy⟩ := ih hrest
          exact ⟨by rw [hcd, hst], hxy⟩

/-- A quoted text in front of any other text determines both. -/
theorem quote_append_inj {s t : String} {x y : List Char}
    (h : (quote s).toList ++ x = (quote t).toList ++ y) : s = t ∧ x = y := by
  simp only [toList_quote, List.cons_append, List.append_assoc, List.nil_append,
    List.cons.injEq, true_and] at h
  obtain ⟨hst, hxy⟩ := flatMap_code_append_inj h
  exact ⟨String.toList_inj.mp hst, hxy⟩

/-- A quoted text holds no control character, whatever the text holds. -/
theorem isControl_of_mem_quote {s : String} {c : Char} (h : c ∈ (quote s).toList) :
    isControl c = false := by
  rw [toList_quote, List.mem_cons, List.mem_append, List.mem_singleton, List.mem_flatMap] at h
  rcases h with rfl | ⟨k, _, hc⟩ | rfl
  · decide
  · exact isControl_of_mem_code hc
  · decide

end Criteria.Text
