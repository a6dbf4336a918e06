/-
# Criteria.Proofs.Json.Documents — documents are read back

What the writer writes, the reader reads: `ofText?_write`. There are two conditions. Arrays and objects
must not nest deeper than the reader follows, and every number must be one that is read back by itself.
A whole number is if 64 bits hold it; of a float it is asked (`IsReadNumber`), for that is a property of the
shortest decimal digits and not of documents.

The induction over the document has to say what follows it and how much fuel the reader has. What follows
is anything that ends a number; twice the length of the text is enough fuel, because two calls of the
reader in a row read at least one character.
-/
import Criteria.Proofs.Json.Laws
import Criteria.Proofs.Json.Tokens

namespace Criteria.Json

variable {depth fuel : ℕ}

/-! ## Numbers that are read back -/

/-- The text of a float is read as the same float. -/
def IsReadNumber (x : Float) : Prop :=
  readNumber (write (.float x)).toList = some (.float x, [])

/-- A document that is a number is one that is read back. -/
def IsReadIfNumber : Json → Prop
  | .integer i => -2 ^ 63 ≤ i ∧ i < 2 ^ 64
  | .float x => IsReadNumber x
  | _ => True

/-- What is read as a number begins with a minus or a digit. -/
theorem exists_cons_of_readNumber {cs : List Char} {p : Json × List Char}
    (h : readNumber cs = some p) : ∃ c tail, cs = c :: tail ∧ (c = '-' ∨ c.isDigit = true) := by
  obtain ⟨j, after⟩ := p
  obtain ⟨whole, afterWhole, _, _, _, hwhole, _⟩ := readNumber_eq_some_iff.mp h
  cases cs with
  | nil => cases hwhole
  | cons c tail =>
      refine ⟨c, tail, rfl, ?_⟩
      by_cases hminus : c = '-'
      · exact .inl hminus
      · right
        by_contra hdigit
        have hsplit : splitSign (c :: tail) = (false, c :: tail) := by simp [splitSign, hminus]
        rw [hsplit, readWhole, readDigits, List.takeWhile_cons_of_neg hdigit] at hwhole
        cases hwhole

theorem skipBlank_cons {c : Char} (h : isBlank c = false) (cs : List Char) :
    skipBlank (c :: cs) = c :: cs :=
  List.dropWhile_cons_of_neg (by rw [h]; exact Bool.false_ne_true)

/-- A number is read as a document. -/
theorem readValue_of_readNumber {cs : List Char} {p : Json × List Char}
    (h : readNumber cs = some p) : readValue (fuel + 1) depth cs = some p := by
  obtain ⟨c, tail, rfl, hc⟩ := exists_cons_of_readNumber h
  have hne : ∀ d : Char, d.isDigit = false → d ≠ '-' → c ≠ d := by
    rintro d hdigit hminus rfl
    rcases hc with hc | hc
    · exact hminus hc
    · rw [hdigit] at hc
      cases hc
  have hblank : isBlank c = false := by
    simp [isBlank, hne ' ' rfl (by decide), hne '\t' rfl (by decide), hne '\n' rfl (by decide),
      hne '\r' rfl (by decide)]
  unfold readValue
  rw [skipBlank_cons hblank]
  -- the other branches begin with a letter, a quote or a bracket
  split
  case h_9 => exact h
  all_goals
    rename_i heq
    exact absurd (List.cons.inj heq).1 (hne _ rfl (by decide))

/-! ## Reading what was written -/

theorem endsNumber_nil : EndsNumber [] := nofun

theorem endsNumber_cons {c : Char} (hc : c = ',' ∨ c = ']' ∨ c = '}') (rest : List Char) :
    EndsNumber (c :: rest) := by
  intro d hd
  obtain rfl := Option.some.inj hd
  rcases hc with rfl | rfl | rfl <;> decide

/-- The document is read from its text, whatever follows. -/
def IsReadFrom (j : Json) (text : List Char) : Prop :=
  ∀ ⦃fuel depth : ℕ⦄ ⦃rest : List Char⦄, 2 * text.length ≤ fuel → j.nesting ≤ depth →
    EndsNumber rest → readValue fuel depth (text ++ rest) = some (j, rest)

theorem isReadFrom_of_readNumber {j : Json} {text : List Char}
    (h : readNumber text = some (j, [])) : j.IsReadFrom text := by
  intro fuel depth rest hfuel _ hrest
  obtain ⟨c, tail, rfl, _⟩ := exists_cons_of_readNumber h
  obtain ⟨fuel, rfl⟩ : ∃ k, fuel = k + 1 := ⟨fuel - 1, by simp at hfuel; omega⟩
  exact readValue_of_readNumber (readNumber_append hrest h)

theorem toList_writeString (s : String) :
    (writeString s).toList = '"' :: (escape s.toList ++ ['"']) :=
  String.toList_ofList

theorem length_le_length_escape (s : List Char) : s.length ≤ (escape s).length := by
  induction s with
  | nil => exact Nat.le_refl 0
  | cons c s ih =>
      have hc : 1 ≤ (escapeChar c).length := by
        unfold escapeChar
        repeat' split
        all_goals simp [escapeControl]
      rw [escape, List.length_append, List.length_cons]
      omega

theorem isReadFrom_str (s : String) : (str s).IsReadFrom (writeString s).toList := by
  intro fuel depth rest hfuel _ _
  have hlength := length_le_length_escape s.toList
  rw [toList_writeString] at hfuel ⊢
  simp only [List.length_cons, List.length_append, List.length_nil] at hfuel
  obtain ⟨fuel, rfl⟩ : ∃ k, fuel = k + 1 := ⟨fuel - 1, by omega⟩
  have hread : readString fuel (escape s.toList ++ '"' :: rest) = some (s, rest) :=
    readString_escape s rest (by omega)
  rw [List.cons_append, List.append_assoc, List.singleton_append]
  change (readString fuel (escape s.toList ++ '"' :: rest)).map _ = _
  rw [hread]
  rfl

theorem toList_intercalate_cons_cons (t u : String) (ts : List String) :
    (",".intercalate (t :: u :: ts)).toList =
      t.toList ++ ',' :: (",".intercalate (u :: ts)).toList := by
  rw [String.intercalate_cons_cons, String.toList_append, String.toList_append, List.append_assoc]
  rfl

/-- The items of an array, one or more, are read up to its closing bracket. -/
theorem readItems_write (j : Json) (items : List Json)
    (h : ∀ k ∈ j :: items, k.IsReadFrom (write k).toList ∧ k.nesting ≤ depth) {fuel : ℕ}
    (rest : List Char)
    (hfuel : 2 * (",".intercalate (writeItems (j :: items))).toList.length + 1 ≤ fuel) :
    readItems fuel depth ((",".intercalate (writeItems (j :: items))).toList ++ ']' :: rest) =
      some (j :: items, rest) := by
  obtain ⟨fuel, rfl⟩ : ∃ k, fuel = k + 1 := ⟨fuel - 1, by omega⟩
  induction items generalizing j fuel with
  | nil =>
      obtain ⟨hj, hdepth⟩ := h j List.mem_cons_self
      rw [writeItems, writeItems, String.intercalate_singleton] at hfuel ⊢
      rw [readItems, hj (by omega) hdepth (endsNumber_cons (.inr (.inl rfl)) rest)]
      rfl
  | cons k items ih =>
      obtain ⟨⟨hj, hdepth⟩, hrest⟩ := List.forall_mem_cons.mp h
      rw [writeItems, writeItems, toList_intercalate_cons_cons, ← writeItems] at hfuel ⊢
      rw [List.length_append, List.length_cons] at hfuel
      -- one unit of fuel for the item and one for the call that reads the rest
      obtain ⟨fuel, rfl⟩ : ∃ k, fuel = k + 1 := ⟨fuel - 1, by omega⟩
      have hitems := ih k hrest fuel (by omega)
      rw [readItems, List.append_assoc, List.cons_append,
        hj (by omega) hdepth (endsNumber_cons (.inl rfl) _)]
      change (readItems (fuel + 1) depth _).map _ = _
      rw [hitems]
      rfl

/-- The text of a member of an object. -/
def memberText (m : String × Json) : String := writeString m.1 ++ ":" ++ write m.2

theorem writeMembers_eq_map (members : List (String × Json)) :
    writeMembers members = members.map memberText := by
  induction members with
  | nil => rfl
  | cons m members ih => rw [writeMembers, ih, List.map_cons, memberText]

/-- The key and the document of a member are read, whatever follows. -/
theorem exists_memberText_append_eq {m : String × Json} (hm : m.2.IsReadFrom (write m.2).toList)
    (hdepth : m.2.nesting ≤ depth) (hfuel : 2 * (memberText m).toList.length ≤ fuel)
    {more : List Char} (hmore : EndsNumber more) :
    ∃ afterKey body,
      (memberText m).toList ++ more = '"' :: afterKey ∧
        readString fuel afterKey = some (m.1, ':' :: body) ∧
          readValue fuel depth body = some (m.2, more) := by
  have hlength : (memberText m).toList.length =
      (escape m.1.toList).length + (write m.2).toList.length + 3 := by
    simp [memberText, toList_writeString]
    omega
  have hkey := length_le_length_escape m.1.toList
  refine ⟨escape m.1.toList ++ '"' :: ':' :: ((write m.2).toList ++ more),
    (write m.2).toList ++ more, ?_, ?_, ?_⟩
  · simp [memberText, toList_writeString]
  · exact readString_escape m.1 _ (by omega)
  · exact hm (by omega) hdepth hmore

/-- The members of an object, one or more, are read up to its closing brace. -/
theorem readMembers_write (m : String × Json) (members : List (String × Json))
    (h : ∀ n ∈ m :: members, n.2.IsReadFrom (write n.2).toList ∧ n.2.nesting ≤ depth) {fuel : ℕ}
    (rest : List Char)
    (hfuel : 2 * (",".intercalate ((m :: members).map memberText)).toList.length + 1 ≤ fuel) :
    readMembers fuel depth
        ((",".intercalate ((m :: members).map memberText)).toList ++ '}' :: rest) =
      some (m :: members, rest) := by
  obtain ⟨fuel, rfl⟩ : ∃ k, fuel = k + 1 := ⟨fuel - 1, by omega⟩
  induction members generalizing m fuel with
  | nil =>
      obtain ⟨hm, hdepth⟩ := h m List.mem_cons_self
      rw [List.map_singleton, String.intercalate_singleton] at hfuel ⊢
      have hfuel : 2 * (memberText m).toList.length ≤ fuel := by omega
      obtain ⟨afterKey, body, htext, hkey, hbody⟩ :=
        exists_memberText_append_eq hm hdepth hfuel (endsNumber_cons (.inr (.inr rfl)) rest)
      have hcolon : skipBlank (':' :: body) = ':' :: body := skipBlank_cons rfl body
      have hbrace : skipBlank ('}' :: rest) = '}' :: rest := skipBlank_cons rfl rest
      rw [htext, readMembers, skipBlank_cons rfl]
      simp only [hkey, hcolon, hbody, hbrace]
  | cons n members ih =>
      obtain ⟨⟨hm, hdepth⟩, hrest⟩ := List.forall_mem_cons.mp h
      rw [List.map_cons, List.map_cons, toList_intercalate_cons_cons, ← List.map_cons] at hfuel ⊢
      rw [List.length_append, List.length_cons] at hfuel
      obtain ⟨fuel, rfl⟩ : ∃ k, fuel = k + 1 := ⟨fuel - 1, by omega⟩
      have hmembers := ih n hrest fuel (by omega)
      have hfuel : 2 * (memberText m).toList.length ≤ fuel + 1 := by omega
      obtain ⟨afterKey, body, htext, hkey, hbody⟩ :=
        exists_memberText_append_eq hm hdepth hfuel (endsNumber_cons (.inl rfl)
          ((",".intercalate ((n :: members).map memberText)).toList ++ '}' :: rest))
      have hcolon : skipBlank (':' :: body) = ':' :: body := skipBlank_cons rfl body
      have hcomma : ∀ next, skipBlank (',' :: next) = ',' :: next := skipBlank_cons rfl
      rw [List.append_assoc, List.cons_append, htext, readMembers, skipBlank_cons rfl]
      simp only [hkey, hcolon, hbody, hcomma, hmembers, Option.map_some]

/-- Where the items of an array are read, the bracket before them makes it an array. -/
theorem readValue_of_readItems {cs rest : List Char} {items : List Json}
    (h : readItems fuel depth cs = some (items, rest)) :
    readValue (fuel + 1) (depth + 1) ('[' :: cs) = some (.arr items, rest) := by
  have hnonempty : ∀ after, skipBlank cs ≠ ']' :: after := by
    intro after hclose
    -- nothing begins with a closing bracket, so there would be no first item
    have hvalue : ∀ k, readValue k depth cs = none := by
      intro k
      cases k with
      | zero => rw [readValue]
      | succ k => unfold readValue; rw [hclose]; rfl
    cases fuel with
    | zero => rw [readItems] at h; cases h
    | succ fuel => rw [readItems, hvalue] at h; cases h
  have hbracket : skipBlank ('[' :: cs) = '[' :: cs := skipBlank_cons rfl cs
  unfold readValue
  -- `hnonempty` excludes the branch in which nothing stands between the two
  simp only [hbracket]
  rw [h]
  rfl

theorem readValue_of_readMembers {cs rest : List Char} {members : List (String × Json)}
    (h : readMembers fuel depth cs = some (members, rest)) :
    readValue (fuel + 1) (depth + 1) ('{' :: cs) = some (.obj members, rest) := by
  have hnonempty : ∀ after, skipBlank cs ≠ '}' :: after := by
    intro after hclose
    cases fuel with
    | zero => rw [readMembers] at h; cases h
    | succ fuel => rw [readMembers, hclose] at h; cases h
  have hbrace : skipBlank ('{' :: cs) = '{' :: cs := skipBlank_cons rfl cs
  unfold readValue
  -- `hnonempty` excludes the branch in which nothing stands between the two
  simp only [hbrace]
  rw [h]
  rfl

theorem isReadFrom_arr {items : List Json} (h : ∀ j ∈ items, j.IsReadFrom (write j).toList) :
    (arr items).IsReadFrom (write (.arr items)).toList := by
  intro fuel depth rest hfuel hdepth hrest
  have htext : (write (.arr items)).toList ++ rest =
      '[' :: ((",".intercalate (writeItems items)).toList ++ ']' :: rest) := by
    simp [write]
  have hlength : (write (.arr items)).toList.length =
      (",".intercalate (writeItems items)).toList.length + 2 := by
    simp [write]
  rw [nesting] at hdepth
  obtain ⟨fuel, rfl⟩ : ∃ k, fuel = k + 1 := ⟨fuel - 1, by omega⟩
  obtain ⟨depth, rfl⟩ : ∃ k, depth = k + 1 := ⟨depth - 1, by omega⟩
  rw [Nat.add_le_add_iff_right, nestingOfItems_le_iff] at hdepth
  rw [htext]
  cases items with
  | nil => rfl
  | cons j items =>
      refine readValue_of_readItems (readItems_write j items (fun k hk => ?_) rest (by omega))
      exact ⟨h k hk, hdepth k hk⟩

theorem isReadFrom_obj {members : List (String × Json)}
    (h : ∀ m ∈ members, m.2.IsReadFrom (write m.2).toList) :
    (obj members).IsReadFrom (write (.obj members)).toList := by
  intro fuel depth rest hfuel hdepth hrest
  have htext : (write (.obj members)).toList ++ rest =
      '{' :: ((",".intercalate (members.map memberText)).toList ++ '}' :: rest) := by
    simp [write, writeMembers_eq_map]
  have hlength : (write (.obj members)).toList.length =
      (",".intercalate (members.map memberText)).toList.length + 2 := by
    simp [write, writeMembers_eq_map]
  rw [nesting] at hdepth
  obtain ⟨fuel, rfl⟩ : ∃ k, fuel = k + 1 := ⟨fuel - 1, by omega⟩
  obtain ⟨depth, rfl⟩ : ∃ k, depth = k + 1 := ⟨depth - 1, by omega⟩
  rw [Nat.add_le_add_iff_right, nestingOfMembers_le_iff] at hdepth
  rw [htext]
  cases members with
  | nil => rfl
  | cons m members =>
      refine readValue_of_readMembers (readMembers_write m members (fun n hn => ?_) rest (by omega))
      exact ⟨h n hn, hdepth n hn⟩

/-- A document is read from its text. -/
theorem isReadFrom_write (j : Json) (h : ∀ k ∈ j.parts, k.IsReadIfNumber) :
    j.IsReadFrom (write j).toList := by
  induction j with
  | null =>
      intro fuel depth rest hfuel _ _
      obtain ⟨fuel, rfl⟩ : ∃ k, fuel = k + 1 := ⟨fuel - 1, by simp [write] at hfuel; omega⟩
      rfl
  | bool b =>
      intro fuel depth rest hfuel _ _
      obtain ⟨fuel, rfl⟩ : ∃ k, fuel = k + 1 :=
        ⟨fuel - 1, by cases b <;> simp [write] at hfuel <;> omega⟩
      cases b <;> rfl
  | integer i =>
      obtain ⟨hlow, hhigh⟩ : IsReadIfNumber (.integer i) := h _ List.mem_cons_self
      exact isReadFrom_of_readNumber (readNumber_integer hlow hhigh)
  | float x => exact isReadFrom_of_readNumber (h (.float x) List.mem_cons_self)
  | str s => exact isReadFrom_str s
  | arr items ih =>
      rw [parts, List.forall_mem_cons, forall_mem_partsOfItems] at h
      exact isReadFrom_arr fun j hj => ih j hj (h.2 j hj)
  | obj members ih =>
      rw [parts, List.forall_mem_cons, forall_mem_partsOfMembers] at h
      exact isReadFrom_obj fun m hm => ih m hm (h.2 m hm)

/-- **What is written is read.** A document that does not nest deeper than the reader follows, and whose
numbers are read back, is what its text is read as. -/
theorem ofText?_write (j : Json) (h : ∀ k ∈ j.parts, k.IsReadIfNumber)
    (hdepth : j.nesting ≤ depthLimit) : ofText? (write j) = some j := by
  have hread : readValue (2 * (write j).toList.length + 2) depthLimit ((write j).toList ++ []) =
      some (j, []) :=
    isReadFrom_write j h (by omega) hdepth endsNumber_nil
  rw [List.append_nil] at hread
  rw [ofText?, hread]
  rfl

end Criteria.Json
