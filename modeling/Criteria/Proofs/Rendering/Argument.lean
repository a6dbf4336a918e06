/-
# Criteria.Proofs.Rendering.Argument — what stands between the parentheses of a leaf

The argument of a leaf that is rendered cleanly is a quoted text or a BARE one: a float, a whole number
or a truth value, written with letters, digits, a point and a minus. Bare texts hold no parenthesis, so
the closing one ends them; which sort of literal a bare text stands for is seen from its characters,
without a tag in front of it: only a float has a point or one of the letters of `NaN` and `inf`, and of
the others only a truth value has letters.

`Test.argument_append_inj` puts this together: the argument of a test, closed by a parenthesis, tells
the test up to the decimals that a float loses (`Test.Alike`). These are the decimals below a millionth
(`numberText_rounds`), so no two finite floats with one text are further apart than that.
-/
import Criteria.Proofs.Decimal.Fixed
import Criteria.Proofs.Text.Quoted
import Criteria.Rendering.Compact
import Mathlib

namespace Criteria

open Criteria.Text

variable {F : Foreign}

/-! ## Bare texts -/

/-- The characters of an argument without quotes. -/
def isBare (c : Char) : Bool := c.isAlphanum || c == '.' || c == '-'

theorem isBare_of_isDigit {c : Char} (h : c.isDigit = true) : isBare c = true := by
  simp [isBare, Char.isAlphanum, h]

theorem isControl_of_isBare {c : Char} (h : isBare c = true) : isControl c = false := by
  simp only [isBare, Char.isAlphanum, Char.isAlpha, Char.isUpper, Char.isLower, Char.isDigit,
    Bool.or_eq_true, Bool.and_eq_true, decide_eq_true_eq, beq_iff_eq, UInt32.le_iff_toNat_le,
    ge_iff_le] at h
  -- capital letters, small letters, digits, and the two signs
  change ((((65 ≤ c.toNat ∧ c.toNat ≤ 90) ∨ (97 ≤ c.toNat ∧ c.toNat ≤ 122)) ∨
    (48 ≤ c.toNat ∧ c.toNat ≤ 57)) ∨ c = '.') ∨ c = '-' at h
  rcases h with (((h | h) | h) | rfl) | rfl
  · exact isControl_eq_false_of_toNat (by omega)
  · exact isControl_eq_false_of_toNat (by omega)
  · exact isControl_eq_false_of_toNat (by omega)
  · decide
  · decide

theorem all_isBare_of_all_isDigit {t : List Char} (h : t.all Char.isDigit = true) :
    t.all isBare = true :=
  List.all_eq_true.mpr fun c hc => isBare_of_isDigit (List.all_eq_true.mp h c hc)

theorem all_isBare_pointed (places units : Nat) :
    (Decimal.pointed places units).toList.all isBare = true := by
  rw [Decimal.toList_pointed, List.all_append, List.all_cons,
    all_isBare_of_all_isDigit (all_isDigit_toDigits _),
    all_isBare_of_all_isDigit (Decimal.all_isDigit_padded _ _)]
  rfl

/-- A float is written with bare characters. -/
theorem all_isBare_numberText (x : Float) : (numberText x).toList.all isBare = true := by
  rw [numberText, Decimal.fixed]
  split
  · decide
  · rename_i negative _
    cases negative <;> decide
  · rename_i d _
    rw [String.toList_append, List.all_append, all_isBare_pointed, Bool.and_true]
    cases d.negative <;> decide

/-- A whole number is written with a minus and digits. -/
theorem all_isBare_integer (i : Int) : i.repr.toList.all isBare = true := by
  rw [toList_repr_integer, List.all_append, all_isBare_of_all_isDigit (all_isDigit_toDigits _),
    Bool.and_true]
  by_cases hi : i < 0 <;> simp [hi, isBare]

/-- The text of a truth value. -/
def boolText (b : Bool) : String := if b then "true" else "false"

theorem boolText_injective {a b : Bool} (h : boolText a = boolText b) : a = b := by
  cases a <;> cases b <;> simp_all [boolText]

theorem all_isBare_boolText (b : Bool) : (boolText b).toList.all isBare = true := by
  cases b <;> decide

theorem bare_append_ne_quote {t x y : List Char} (ht : t.all isBare = true) :
    t ++ ')' :: x ≠ '"' :: y := by
  intro h
  cases t with
  | nil => exact absurd (List.cons.inj h).1 (by decide)
  | cons c t =>
      rw [List.all_cons, Bool.and_eq_true, (List.cons.inj h).1] at ht
      exact absurd ht.1 (by decide)

/-! ## Which sort of literal a bare text stands for -/

/-- The sorts of literals with a bare text. -/
inductive BareSort where
  | float
  | truth
  | whole

/-- A character that only the text of a float has: its point, or a letter of `NaN` or `inf`. -/
def isFloatMark (c : Char) : Bool := c == '.' || c == 'N' || c == 'i'

/-- The sort of literal that a bare text stands for. -/
def bareSort (t : String) : BareSort :=
  if t.toList.any isFloatMark then .float
  else if t.toList.any Char.isAlpha then .truth
  else .whole

theorem bareSort_numberText (x : Float) : bareSort (numberText x) = .float := by
  have hmark : (numberText x).toList.any isFloatMark = true := by
    rw [numberText, Decimal.fixed]
    split
    · decide
    · rename_i negative _
      cases negative <;> decide
    · exact List.any_eq_true.mpr ⟨'.', by simp [Decimal.pointed], by decide⟩
  rw [bareSort, if_pos hmark]

theorem bareSort_boolText (b : Bool) : bareSort (boolText b) = .truth := by
  cases b <;> rfl

theorem isDigit_or_minus_of_mem_integer {i : Int} {c : Char} (h : c ∈ i.repr.toList) :
    c.isDigit = true ∨ c = '-' := by
  rw [toList_repr_integer, List.mem_append] at h
  rcases h with h | h
  · right
    by_cases hi : i < 0
    · simpa [hi] using h
    · simp [hi] at h
  · exact Or.inl (List.all_eq_true.mp (all_isDigit_toDigits _) c h)

theorem isFloatMark_of_isDigit {c : Char} (h : c.isDigit = true) : isFloatMark c = false := by
  rw [Bool.eq_false_iff]
  intro hm
  simp only [isFloatMark, Bool.or_eq_true, beq_iff_eq] at hm
  rcases hm with (rfl | rfl) | rfl <;> exact absurd h (by decide)

theorem isAlpha_of_isDigit {c : Char} (h : c.isDigit = true) : c.isAlpha = false := by
  grind [Char.isAlpha, Char.isUpper, Char.isLower, Char.isDigit]

theorem bareSort_integer (i : Int) : bareSort i.repr = .whole := by
  have hnone : ∀ c ∈ i.repr.toList, isFloatMark c = false ∧ c.isAlpha = false := by
    intro c hc
    rcases isDigit_or_minus_of_mem_integer hc with hd | rfl
    · exact ⟨isFloatMark_of_isDigit hd, isAlpha_of_isDigit hd⟩
    · decide
  have hmark : i.repr.toList.any isFloatMark = false :=
    List.any_eq_false.mpr fun c hc => by rw [(hnone c hc).1]; exact Bool.false_ne_true
  have hletter : i.repr.toList.any Char.isAlpha = false :=
    List.any_eq_false.mpr fun c hc => by rw [(hnone c hc).2]; exact Bool.false_ne_true
  rw [bareSort, hmark, hletter]
  rfl

/-! ## Literals -/

/-- The literals that are written without quotes. -/
inductive Literal.Bare : Literal F → Prop
  | number (x : Float) : Bare (.number x)
  | bool (b : Bool) : Bare (.other (.bool b))
  | integer (i : Int64) : Bare (.other (.integer i))

/-- A literal that has a text is a text or is written without quotes. -/
theorem Literal.str_or_bare {l : Literal F} (h : l.render.isClean = true) :
    (∃ s, l = .str s) ∨ l.Bare := by
  cases l with
  | str s => exact Or.inl ⟨s, rfl⟩
  | number x => exact Or.inr (.number x)
  | other v =>
      cases v with
      | bool b => exact Or.inr (.bool b)
      | integer i => exact Or.inr (.integer i)
      | _ => cases h

theorem Literal.Bare.all_isBare {l : Literal F} (h : l.Bare) :
    l.render.value.toList.all isBare = true := by
  cases h with
  | number x => exact all_isBare_numberText x
  | bool b => exact all_isBare_boolText b
  | integer i => exact all_isBare_integer i.toInt

/-! ## The decimals of a float -/

section Decimals

open Decimal (IsRounding Reading)

variable {x y : Float} {d e : Decimal.Dyadic}

/-- A finite float is written with six decimals, and its digits count the millionths nearest to it. -/
theorem numberText_rounds (hx : Reading.ofFloat x = .finite d) :
    ∃ whole fraction : List Char,
      (numberText x).toList = (if d.negative then ['-'] else []) ++ (whole ++ '.' :: fraction) ∧
        whole ≠ [] ∧ (whole ++ fraction).all Char.isDigit = true ∧ fraction.length = 6 ∧
        IsRounding (Nat.ofDigitChars 10 (whole ++ fraction) 0) (|d.value| * 10 ^ 6) :=
  Decimal.fixed_rounds (by decide) hx

/-- Finite floats with one text are a millionth apart at most. -/
theorem abs_value_sub_le_of_numberText_eq (hx : Reading.ofFloat x = .finite d)
    (hy : Reading.ofFloat y = .finite e) (h : numberText x = numberText y) :
    |d.value - e.value| ≤ 1 / 10 ^ 6 :=
  (le_div_iff₀ (by positivity)).mpr (Decimal.abs_value_sub_le_of_fixed_eq hx hy h)

end Decimals

/-! ## Tests -/

/-- Whether two tests are the same up to the decimals that the text of a float drops. -/
def Test.Alike : Test F → Test F → Prop
  | .equals (.number x), .equals (.number y) => numberText x = numberText y
  | .lessThan x, .lessThan y => numberText x = numberText y
  | s, t => s = t

theorem Test.render_eq_of_alike {s t : Test F} (h : s.Alike t) : s.render = t.render := by
  unfold Test.Alike at h
  split at h
  · rw [Test.render, Test.render, Test.argument, Test.argument, Literal.render, Literal.render, h]
    rfl
  · rw [Test.render, Test.render, Test.argument, Test.argument, h]
    rfl
  · rw [h]

/-- Literals with one bare text are of one sort, and the same up to the decimals of a float. -/
theorem Literal.Bare.alike_of_render_eq {l m : Literal F} (hl : l.Bare) (hm : m.Bare)
    (h : l.render.value = m.render.value) : (Test.equals l).Alike (.equals m) := by
  have hsort : bareSort l.render.value = bareSort m.render.value := by rw [h]
  cases hl with
  | number x =>
      replace hsort := (bareSort_numberText x).symm.trans hsort
      cases hm with
      | number y => exact h
      | bool b => cases hsort.trans (bareSort_boolText b)
      | integer i => cases hsort.trans (bareSort_integer i.toInt)
  | bool a =>
      replace hsort := (bareSort_boolText a).symm.trans hsort
      cases hm with
      | number y => cases hsort.trans (bareSort_numberText y)
      | bool b => rw [boolText_injective h]; rfl
      | integer i => cases hsort.trans (bareSort_integer i.toInt)
  | integer i =>
      replace hsort := (bareSort_integer i.toInt).symm.trans hsort
      cases hm with
      | number y => cases hsort.trans (bareSort_numberText y)
      | bool b => cases hsort.trans (bareSort_boolText b)
      | integer k => rw [Int64.toInt_inj.mp (Int.repr_injective h)]; rfl

theorem bare_close_inj {a b x y : List Char} (ha : a.all isBare = true) (hb : b.all isBare = true)
    (h : a ++ ')' :: x = b ++ ')' :: y) : a = b ∧ x = y := by
  obtain ⟨hab, hxy⟩ := run_append_inj (List.all_eq_true.mp ha) (List.all_eq_true.mp hb)
    (by decide) (by decide) h
  exact ⟨hab, (List.cons.inj hxy).2⟩

theorem quote_close_inj {s t : String} {x y : List Char}
    (h : (quote s).toList ++ ')' :: x = (quote t).toList ++ ')' :: y) : s = t ∧ x = y := by
  obtain ⟨hst, hxy⟩ := quote_append_inj h
  exact ⟨hst, (List.cons.inj hxy).2⟩

theorem quote_append_ne_bare {s : String} {a x y : List Char} (ha : a.all isBare = true) :
    (quote s).toList ++ ')' :: x ≠ a ++ ')' :: y := by
  rw [toList_quote, List.cons_append]
  exact (bare_append_ne_quote ha).symm

theorem Literal.render_append_inj {l m : Literal F} (hl : l.render.isClean = true)
    (hm : m.render.isClean = true) {x y : List Char}
    (h : l.render.value.toList ++ ')' :: x = m.render.value.toList ++ ')' :: y) :
    (Test.equals l).Alike (.equals m) ∧ x = y := by
  rcases Literal.str_or_bare hl with ⟨s, rfl⟩ | hbl
  · rcases Literal.str_or_bare hm with ⟨t, rfl⟩ | hbm
    · obtain ⟨rfl, hxy⟩ := quote_close_inj h
      exact ⟨rfl, hxy⟩
    · exact absurd h (quote_append_ne_bare hbm.all_isBare)
  · rcases Literal.str_or_bare hm with ⟨t, rfl⟩ | hbm
    · exact absurd h.symm (quote_append_ne_bare hbl.all_isBare)
    · obtain ⟨htext, hxy⟩ := bare_close_inj hbl.all_isBare hbm.all_isBare h
      exact ⟨hbl.alike_of_render_eq hbm (String.toList_inj.mp htext), hxy⟩

/-- **The argument of a test tells the test.** For tests of one kind with clean arguments, the
argument and its closing parenthesis in front of any text determine the test and the text. -/
theorem Test.argument_append_inj {s t : Test F} (hs : s.argument.isClean = true)
    (ht : t.argument.isClean = true) (hk : s.kind = t.kind) {x y : List Char}
    (h : s.argument.value.toList ++ ')' :: x = t.argument.value.toList ++ ')' :: y) :
    s.Alike t ∧ x = y := by
  cases s with
  | existence =>
      cases t with
      | existence => exact ⟨rfl, by simpa [Test.argument, Outcome.clean] using h⟩
      | _ => cases hk
  | equals l =>
      cases t with
      | equals m => exact Literal.render_append_inj hs ht h
      | _ => cases hk
  | lessThan a =>
      cases t with
      | lessThan b =>
          obtain ⟨hab, hxy⟩ :=
            bare_close_inj (all_isBare_numberText a) (all_isBare_numberText b) h
          exact ⟨String.toList_inj.mp hab, hxy⟩
      | _ => cases hk
  | beginsWith a =>
      cases t with
      | beginsWith b =>
          obtain ⟨rfl, hxy⟩ := quote_close_inj h
          exact ⟨rfl, hxy⟩
      | _ => cases hk
  | endsWith a =>
      cases t with
      | endsWith b =>
          obtain ⟨rfl, hxy⟩ := quote_close_inj h
          exact ⟨rfl, hxy⟩
      | _ => cases hk
  | contains a =>
      cases t with
      | contains b =>
          obtain ⟨rfl, hxy⟩ := quote_close_inj h
          exact ⟨rfl, hxy⟩
      | _ => cases hk
  | pattern a =>
      cases t with
      | pattern b =>
          obtain ⟨hab, hxy⟩ := quote_close_inj h
          exact ⟨congrArg Test.pattern (Pattern.ext_source hab), hxy⟩
      | _ => cases hk

/-! ## Calls -/

theorem toList_callText (k : Kind) (a : String) :
    (callText k a).toList = k.name.toList ++ '(' :: (a.toList ++ [')']) := by
  simp [callText]

/-- A call in front of any text determines its kind; its argument comes after the parenthesis. -/
theorem callText_append_inj {k l : Kind} {a b : String} {x y : List Char}
    (h : (callText k a).toList ++ x = (callText l b).toList ++ y) :
    k = l ∧ a.toList ++ ')' :: x = b.toList ++ ')' :: y := by
  rw [toList_callText, toList_callText] at h
  simp only [List.append_assoc, List.cons_append, List.nil_append] at h
  exact name_append_inj (by decide) h

theorem isBare_of_isAlpha {c : Char} (h : c.isAlpha = true) : isBare c = true := by
  simp [isBare, Char.isAlphanum, h]

/-! ## Control characters -/

theorem isControl_of_mem_word {w : String} (hw : w.toList.all Char.isAlpha = true) {c : Char}
    (hc : c ∈ w.toList) : isControl c = false :=
  isControl_of_isBare (isBare_of_isAlpha (List.all_eq_true.mp hw c hc))

/-- Only the name of a foreign type can bring a control character into a type name. -/
theorem Value.exists_tag_of_control_mem {v : Value F} {c : Char} (hc : c ∈ v.typeName.toList)
    (hctl : isControl c = true) : ∃ tag, c ∈ (F.name tag).toList := by
  cases v with
  | foreign item => exact ⟨item.tag, hc⟩
  | _ =>
      simp only [Value.typeName] at hc
      rw [isControl_of_mem_word (by decide) hc] at hctl
      cases hctl

theorem Value.exists_tag_of_control_mem_placeholder {v : Value F} {c : Char}
    (hc : c ∈ ("<" ++ v.typeName ++ ">").toList) (hctl : isControl c = true) :
    ∃ tag, c ∈ (F.name tag).toList := by
  rw [String.toList_append, String.toList_append, List.mem_append, List.mem_append] at hc
  rcases hc with (hc | hc) | hc
  · rw [show c = '<' by simpa using hc] at hctl
    exact absurd hctl (by decide)
  · exact Value.exists_tag_of_control_mem hc hctl
  · rw [show c = '>' by simpa using hc] at hctl
    exact absurd hctl (by decide)

/-- A control character in the text of a literal is in the name of a foreign type, and the literal has
only a placeholder. -/
theorem Literal.control_mem_render {l : Literal F} {c : Char} (hc : c ∈ l.render.value.toList)
    (hctl : isControl c = true) :
    l.render.isClean = false ∧ ∃ tag, c ∈ (F.name tag).toList := by
  cases hl : l.render.isClean with
  | true =>
      have hno : isControl c = false := by
        rcases Literal.str_or_bare hl with ⟨s, rfl⟩ | hb
        · exact isControl_of_mem_quote hc
        · exact isControl_of_isBare (List.all_eq_true.mp hb.all_isBare c hc)
      rw [hno] at hctl
      cases hctl
  | false =>
      refine ⟨rfl, ?_⟩
      cases l with
      | str s => cases hl
      | number x => cases hl
      | other v =>
          cases v with
          | bool b => cases hl
          | integer i => cases hl
          | _ => exact Value.exists_tag_of_control_mem_placeholder hc hctl

/-- The same for the argument of any test. -/
theorem Test.control_mem_argument {t : Test F} {c : Char} (hc : c ∈ t.argument.value.toList)
    (hctl : isControl c = true) :
    t.argument.isClean = false ∧ ∃ tag, c ∈ (F.name tag).toList := by
  cases t with
  | existence => exact absurd hc (by simp [Test.argument, Outcome.clean])
  | equals l => exact Literal.control_mem_render hc hctl
  | lessThan x =>
      rw [isControl_of_isBare (List.all_eq_true.mp (all_isBare_numberText x) c hc)] at hctl
      cases hctl
  | _ =>
      rw [isControl_of_mem_quote hc] at hctl
      cases hctl

/-- And for a call: its name and its parentheses are no control characters. -/
theorem control_mem_callText {k : Kind} {a : String} {c : Char} (hc : c ∈ (callText k a).toList)
    (hctl : isControl c = true) : c ∈ a.toList := by
  rw [toList_callText, List.mem_append, List.mem_cons, List.mem_append, List.mem_singleton] at hc
  rcases hc with hc | rfl | hc | rfl
  · rw [isControl_of_mem_word (all_isAlpha_name k) hc] at hctl
    cases hctl
  · exact absurd hctl (by decide)
  · exact hc
  · exact absurd hctl (by decide)

end Criteria
