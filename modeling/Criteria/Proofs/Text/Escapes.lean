/-
# Criteria.Proofs.Text.Escapes — what stands between the quotes

Between its two quotes a quoted text is a row of codes, and there are two ways to take it apart without
knowing the text. From left to right, a backslash begins an escape and everything else stands for itself
(`unescape?`); that gives back the text. Or else a reader looks for the end and counts the backslashes in
front of a quote. A row of codes ends with an even number of them, for the code of a backslash has two and
no other code ends with one (`even_trailingBackslashes`), and the one code with a quote in it puts a
backslash of its own before that (`eq_append_of_flatMap_code_eq`). So every quote inside has an odd number
of backslashes in front of it, however many of them the text itself has there.
-/
import Criteria.Proofs.Text.Quoted
import Mathlib.Algebra.Ring.Parity
import Mathlib.Data.List.DropRight
import Mathlib.Data.List.Induction

namespace Criteria.Text

/-! ## Undoing the escapes -/

/-- An escape takes up at least one character after its backslash. -/
theorem length_lt_of_readEscape? {l rest : List Char} {c : Char}
    (h : readEscape? l = some (c, rest)) : rest.length < l.length := by
  unfold readEscape? at h
  split at h
  case h_7 digits =>
    obtain ⟨_, _, hpair⟩ := Option.map_eq_some_iff.mp h
    obtain ⟨_, rfl⟩ := Prod.mk.inj hpair
    have hdrop : (digits.dropWhile (· != '\x7d')).length ≤ digits.length :=
      (List.dropWhile_sublist _).length_le
    rw [List.length_drop, List.length_cons, List.length_cons]
    omega
  case h_8 => cases h
  all_goals
    obtain ⟨_, rfl⟩ := Prod.mk.inj (Option.some.inj h)
    exact Nat.lt_succ_self _

/-- The text that characters with escapes among them stand for; none if a backslash begins no escape. -/
def unescape? : List Char → Option (List Char)
  | [] => some []
  | c :: l =>
    if c = '\\' then
      match h : readEscape? l with
      | some (d, rest) =>
        have := length_lt_of_readEscape? h
        (unescape? rest).map (d :: ·)
      | none => none
    else (unescape? l).map (c :: ·)
termination_by l => l.length

theorem unescape?_backslash {l rest : List Char} {d : Char} (h : readEscape? l = some (d, rest)) :
    unescape? ('\\' :: l) = (unescape? rest).map (d :: ·) := by
  rw [unescape?, if_pos rfl]
  split
  · rename_i hread
    rw [h, Option.some.injEq, Prod.mk.injEq] at hread
    rw [hread.1, hread.2]
  · rename_i hread
    rw [h] at hread
    cases hread

theorem unescape?_cons {c : Char} (h : c ≠ '\\') (l : List Char) :
    unescape? (c :: l) = (unescape? l).map (c :: ·) := by
  rw [unescape?, if_neg h]

/-- The code of a character is undone, whatever follows. -/
theorem unescape?_code_append (c : Char) (l : List Char) :
    unescape? (code c ++ l) = (unescape? l).map (c :: ·) := by
  cases hc : isSpecial c with
  | true =>
      rw [code_of_special hc, List.cons_append]
      exact unescape?_backslash (readEscape?_escapeChar c l)
  | false =>
      have hne : c ≠ '\\' := by
        rintro rfl
        cases hc
      rw [code_of_not_special hc, List.singleton_append]
      exact unescape?_cons hne l

/-- The codes of a text are undone to the text. -/
theorem unescape?_flatMap_code (s : List Char) : unescape? (s.flatMap code) = some s := by
  induction s with
  | nil => rw [List.flatMap_nil, unescape?]
  | cons c s ih => rw [List.flatMap_cons, unescape?_code_append, ih, Option.map_some]

/-! ## Backslashes at the end -/

/-- How many backslashes a row of characters ends with. -/
def trailingBackslashes (l : List Char) : Nat := (l.rtakeWhile (· == '\\')).length

theorem trailingBackslashes_append_backslash (l : List Char) :
    trailingBackslashes (l ++ ['\\']) = trailingBackslashes l + 1 := by
  rw [trailingBackslashes, List.rtakeWhile_concat_pos _ _ _ rfl, List.length_append]
  rfl

theorem trailingBackslashes_append_of_ne {c : Char} (h : c ≠ '\\') (l : List Char) :
    trailingBackslashes (l ++ [c]) = 0 := by
  rw [trailingBackslashes, List.rtakeWhile_concat_neg _ _ _ (by simpa using h)]
  rfl

/-- Only the code of a backslash ends with one. -/
theorem exists_code_eq_append {c : Char} (h : c ≠ '\\') :
    ∃ front last, code c = front ++ [last] ∧ last ≠ '\\' := by
  cases hc : isSpecial c with
  | false => exact ⟨[], c, code_of_not_special hc, h⟩
  | true =>
      rw [code, if_pos hc]
      unfold escapeChar
      split
      case h_2 => exact absurd rfl h
      case h_7 => exact ⟨'\\' :: 'u' :: '\x7b' :: Nat.toDigits 16 c.toNat, '\x7d', rfl, by decide⟩
      all_goals exact ⟨['\\'], _, rfl, by decide⟩

/-- Codes leave the parity of the backslashes in front of them as it is. -/
theorem even_trailingBackslashes {front : List Char} (h : Even (trailingBackslashes front))
    (s : List Char) : Even (trailingBackslashes (front ++ s.flatMap code)) := by
  -- from the end, where the backslashes are counted
  induction s using List.reverseRecOn with
  | nil => rwa [List.flatMap_nil, List.append_nil]
  | append_singleton s c ih =>
      rw [List.flatMap_append, List.flatMap_singleton, ← List.append_assoc]
      by_cases hc : c = '\\'
      · have hcode : code c = ['\\'] ++ ['\\'] := by
          rw [hc]
          rfl
        rw [hcode, ← List.append_assoc, trailingBackslashes_append_backslash,
          trailingBackslashes_append_backslash, add_assoc]
        exact ih.add even_two
      · obtain ⟨ks, k, hcode, hk⟩ := exists_code_eq_append hc
        rw [hcode, ← List.append_assoc, trailingBackslashes_append_of_ne hk]
        exact Even.zero

/-! ## Quotes inside -/

theorem eq_quote_of_mem_escapeChar {c : Char} (h : '"' ∈ escapeChar c) : c = '"' := by
  unfold escapeChar at h
  split at h
  case h_1 => rfl
  case h_7 =>
    rcases mem_escapeCode h with h | h
    · exact absurd h (by decide)
    · -- a hexadecimal digit is no quote
      have hdigit := toNat_of_hexDigit? (hexDigit?_isSome_of_mem_toDigits h)
      exact absurd hdigit.1 (by decide)
  all_goals exact absurd h (by decide)

theorem eq_quote_of_mem_code {c : Char} (h : '"' ∈ code c) : c = '"' := by
  cases hc : isSpecial c with
  | true =>
      rw [code, if_pos hc] at h
      exact eq_quote_of_mem_escapeChar h
  | false =>
      rw [code_of_not_special hc, List.mem_singleton] at h
      exact h.symm

/-- A quote in a code is the second half of the escaped quote. -/
theorem eq_of_code_eq_append {c : Char} {before after : List Char}
    (h : code c = before ++ '"' :: after) : c = '"' ∧ before = ['\\'] ∧ after = [] := by
  obtain rfl : c = '"' := eq_quote_of_mem_code (by rw [h]; simp)
  have hcode : ['\\', '"'] = before ++ '"' :: after := h
  cases before with
  | nil => exact absurd (List.cons.inj hcode).1 (by decide)
  | cons b before =>
      obtain ⟨rfl, hrest⟩ := List.cons.inj hcode
      cases before with
      | nil => exact ⟨rfl, rfl, (List.cons.inj hrest).2.symm⟩
      | cons b before => exact absurd (List.cons.inj hrest).2 (by simp)

/-- A quote among the codes of a text is a quote of the text, behind the backslash of its escape. -/
theorem eq_append_of_flatMap_code_eq {s before after : List Char}
    (h : s.flatMap code = before ++ '"' :: after) :
    ∃ front back, s = front ++ '"' :: back ∧ before = front.flatMap code ++ ['\\'] ∧
      after = back.flatMap code := by
  induction s generalizing before with
  | nil => simp at h
  | cons c s ih =>
      rw [List.flatMap_cons, List.append_eq_append_iff] at h
      rcases h with ⟨between, rfl, hrest⟩ | ⟨codeRest, hcode, hrest⟩
      · obtain ⟨front, back, rfl, rfl, rfl⟩ := ih hrest
        exact ⟨c :: front, back, rfl, by rw [List.flatMap_cons, List.append_assoc], rfl⟩
      · cases codeRest with
        | nil =>
            -- the quote cannot begin the next code
            have hnext : s.flatMap code = [] ++ '"' :: after := hrest.symm
            obtain ⟨front, _, _, hnil, _⟩ := ih hnext
            simp at hnil
        | cons k codeRest =>
            obtain ⟨rfl, rfl⟩ := List.cons.inj hrest
            obtain ⟨rfl, rfl, rfl⟩ := eq_of_code_eq_append hcode
            exact ⟨[], s, rfl, rfl, rfl⟩

/-- A quote strictly inside a quoted text has an odd number of backslashes in front of it. -/
theorem odd_trailingBackslashes_of_quote {s : String} {before after : List Char}
    (h : (quote s).toList = before ++ '"' :: after) (hbefore : before ≠ []) (hafter : after ≠ []) :
    Odd (trailingBackslashes before) := by
  obtain ⟨first, before, rfl⟩ := List.exists_cons_of_ne_nil hbefore
  obtain ⟨after, last, rfl⟩ : ∃ inner last, after = inner ++ [last] :=
    ⟨_, _, (List.dropLast_append_getLast hafter).symm⟩
  rw [toList_quote, List.cons_append, List.cons.injEq] at h
  have hinner : s.toList.flatMap code ++ ['"'] = (before ++ '"' :: after) ++ [last] := by
    rw [h.2, List.append_assoc, List.cons_append]
  obtain ⟨front, back, _, rfl, _⟩ :=
    eq_append_of_flatMap_code_eq (List.append_inj' hinner rfl).1
  have heven : Even (trailingBackslashes (['"'] ++ front.flatMap code)) :=
    even_trailingBackslashes (by decide) front
  rw [← h.1, ← List.cons_append, trailingBackslashes_append_backslash]
  exact heven.add_one

theorem quote_append_inj_iff (s t x y : String) :
    quote s ++ x = quote t ++ y ↔ s = t ∧ x = y := by
  constructor
  · intro h
    have hlist : (quote s).toList ++ x.toList = (quote t).toList ++ y.toList := by
      rw [← String.toList_append, h, String.toList_append]
    obtain ⟨hst, hxy⟩ := quote_append_inj hlist
    exact ⟨hst, String.toList_inj.mp hxy⟩
  · rintro ⟨rfl, rfl⟩
    rfl

/-- **Quoting is a self-delimiting code that loses nothing.** A quoted text in front of any other text
determines both. It holds no control character, begins and ends with a quote, has an odd number of
backslashes in front of every quote strictly inside, and undoing its escapes gives back the text. -/
theorem quote_self_delimiting (s : String) :
    (∀ t x y : String, quote s ++ x = quote t ++ y ↔ s = t ∧ x = y) ∧
      (∀ c ∈ (quote s).toList, isControl c = false) ∧
      (∀ before after : List Char, (quote s).toList = before ++ '"' :: after → before ≠ [] →
        after ≠ [] → Odd (trailingBackslashes before)) ∧
      ∃ inner, (quote s).toList = '"' :: (inner ++ ['"']) ∧ unescape? inner = some s.toList := by
  refine ⟨quote_append_inj_iff s, fun c hc => isControl_of_mem_quote hc, ?_, ?_⟩
  · exact fun before after h => odd_trailingBackslashes_of_quote h
  · exact ⟨s.toList.flatMap code, toList_quote s, unescape?_flatMap_code s.toList⟩

/-- A backslash, a quote and a control character: the quote inside has three backslashes in front of it, of
which one is its own. -/
theorem quote_self_delimiting_of_backslash_quote_control :
    ('u' ∈ (quote "\\\"\x7f").toList ∧ isControl 'u' = false) ∧
      (quote "\\\"\x7f").toList =
        ['"', '\\', '\\', '\\'] ++ '"' :: ['\\', 'u', '\x7b', '7', 'f', '\x7d', '"'] ∧
      Odd (trailingBackslashes ['"', '\\', '\\', '\\']) :=
  have hmember : 'u' ∈ (quote "\\\"\x7f").toList := by decide
  have hquote : (quote "\\\"\x7f").toList =
      ['"', '\\', '\\', '\\'] ++ '"' :: ['\\', 'u', '\x7b', '7', 'f', '\x7d', '"'] := by decide
  have hspec := quote_self_delimiting "\\\"\x7f"
  ⟨⟨hmember, hspec.2.1 _ hmember⟩, hquote, hspec.2.2.1 _ _ hquote nofun nofun⟩

end Criteria.Text
