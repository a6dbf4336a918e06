/-
# Criteria.Datum — what a self-describing source of data can hold

Formats that carry their types along — JSON is one, binary formats have more — agree on a small model
of data: the empty value, an option, a truth value, whole numbers with and without a sign, floats,
texts, bytes, sequences, maps with keys of any sort, and two shapes that only a schema can interpret.
`Value.ofDatum` turns such a datum into a value, or says why it cannot:

* every float, and every whole number of up to 64 bits, becomes a float, whole numbers by rounding, so
  that a value read from data never holds a whole number;
* options are transparent, and the absent value stands for both the empty value and the empty option;
* bytes, wrapped types, enumerations and whole numbers of 128 bits are refused, however small the
  number is, and so is a map key that is not text (bytes that encode a text are text there).

The first refusal met counts: items from left to right, in a map the key of an entry before its value.
-/
import Criteria.Decimal.Spelling
import Criteria.Number.Widening
import Criteria.Value.Basic

namespace Criteria

/-- A piece of data as a source offers it. Sources call whole numbers of 8, 16 and 32 bits numbers of
64 bits, but keep those of 128 bits apart. -/
inductive Datum where
  | unit
  | none
  | some (inner : Datum)
  /-- A value in a type of its own. -/
  | wrapped (inner : Datum)
  | bool (b : Bool)
  | signed (i : Int64)
  | unsigned (n : UInt64)
  | wideSigned (i : BitVec 128)
  | wideUnsigned (n : BitVec 128)
  | float (x : Float)
  | char (c : Char)
  | str (s : String)
  | bytes (b : ByteArray)
  | seq (items : List Datum)
  | map (entries : List (Datum × Datum))
  /-- A member of an enumeration. -/
  | enumeration

namespace Datum

/-- Induction over data: what holds of every datum that has no others inside it, and passes from what is
inside options, wrapped types, sequences and maps to these, holds of every datum. -/
@[elab_as_elim, induction_eliminator]
theorem treeInduction {motive : Datum → Prop} (unit : motive .unit) (none : motive .none)
    (some : ∀ d, motive d → motive (.some d)) (wrapped : ∀ d, motive d → motive (.wrapped d))
    (bool : ∀ b, motive (.bool b)) (signed : ∀ i, motive (.signed i))
    (unsigned : ∀ n, motive (.unsigned n)) (wideSigned : ∀ i, motive (.wideSigned i))
    (wideUnsigned : ∀ n, motive (.wideUnsigned n)) (float : ∀ x, motive (.float x))
    (char : ∀ c, motive (.char c)) (str : ∀ s, motive (.str s)) (bytes : ∀ b, motive (.bytes b))
    (seq : ∀ items, (∀ d ∈ items, motive d) → motive (.seq items))
    (map : ∀ entries, (∀ e ∈ entries, motive e.1 ∧ motive e.2) → motive (.map entries))
    (enumeration : motive .enumeration) (d : Datum) : motive d :=
  @Datum.rec motive (fun ds => ∀ d ∈ ds, motive d) (fun es => ∀ e ∈ es, motive e.1 ∧ motive e.2)
    (fun e => motive e.1 ∧ motive e.2) unit none some wrapped bool signed unsigned wideSigned
    wideUnsigned float char str bytes seq map enumeration (by simp)
    (fun _ _ hd hds => List.forall_mem_cons.mpr ⟨hd, hds⟩) (by simp)
    (fun _ _ he hes => List.forall_mem_cons.mpr ⟨he, hes⟩) (fun _ _ hk hd => ⟨hk, hd⟩) d

/-- Floats in messages: never with a power of ten, always with a point. -/
def spelling : Decimal.Spelling where
  tie := .away
  isPositional _ := true
  exponentMark := "e"
  nan := "NaN.0"
  infinity negative := if negative then "-inf.0" else "inf.0"

/-- What a datum is, in words. -/
def describe : Datum → String
  | .unit => "unit value"
  | .none => "Option value"
  | .some _ => "Option value"
  | .wrapped _ => "newtype struct"
  | .bool b => if b then "boolean `true`" else "boolean `false`"
  | .signed i => "integer `" ++ toString i.toInt ++ "`"
  | .unsigned n => "integer `" ++ toString n.toNat ++ "`"
  | .wideSigned i => "integer `" ++ toString i.toInt ++ "` as i128"
  | .wideUnsigned n => "integer `" ++ toString n.toNat ++ "` as u128"
  | .float x => "floating point `" ++ spelling.write x ++ "`"
  | .char _ => "character"
  | .str _ => "string"
  | .bytes _ => "byte array"
  | .seq _ => "sequence"
  | .map _ => "map"
  | .enumeration => "enum"

/-- Why a datum is not a value. -/
inductive Refusal where
  /-- Where a value is expected stands something, described here, that is none. -/
  | value (found : String)
  /-- Where a map key is expected stands something, described here, that is no text. -/
  | key (found : String)
  /-- Where a map key is expected stand bytes that do not encode a text. -/
  | keyBytes
  deriving DecidableEq, Repr

/-- The sentence for a refusal. -/
def Refusal.message : Refusal → String
  | .value found =>
    "invalid type: " ++ found ++ ", expected a null, bool, number, string, sequence or map"
  | .key found => "invalid type: " ++ found ++ ", expected a string"
  | .keyBytes => "invalid value: byte array, expected a string"

/-- The text that a map key is. -/
def toKey : Datum → Except Refusal String
  | .str s => .ok s
  | .char c => .ok (String.singleton c)
  | .bytes b =>
    match String.fromUTF8? b with
    | Option.some s => .ok s
    | Option.none => .error .keyBytes
  | d => .error (.key d.describe)

end Datum

namespace Value

variable {F : Foreign}

mutual

/-- The value that a datum stands for. -/
def ofDatum : Datum → Except Datum.Refusal (Value F)
  | .unit => .ok .absent
  | .none => .ok .absent
  | .some d => ofDatum d
  | .bool b => .ok (.bool b)
  | .signed i => .ok (.number (Number.ofInt64 i))
  | .unsigned n => .ok (.number (Number.ofUInt64 n))
  | .float x => .ok (.number x)
  | .char c => .ok (.str (String.singleton c))
  | .str s => .ok (.str s)
  | .seq items => (ofData items).map .list
  | .map entries => (ofDatumEntries entries).map ofEntries
  | .wrapped d => .error (.value (Datum.wrapped d).describe)
  | .wideSigned i => .error (.value (Datum.wideSigned i).describe)
  | .wideUnsigned n => .error (.value (Datum.wideUnsigned n).describe)
  | .bytes b => .error (.value (Datum.bytes b).describe)
  | .enumeration => .error (.value Datum.enumeration.describe)

/-- The values that the items of a sequence stand for. -/
def ofData : List Datum → Except Datum.Refusal (List (Value F))
  | [] => .ok []
  | d :: rest =>
    match ofDatum d with
    | .error e => .error e
    | .ok v => (ofData rest).map (v :: ·)

/-- The entries that those of a map stand for, in the order of the source. -/
def ofDatumEntries : List (Datum × Datum) → Except Datum.Refusal (List (String × Value F))
  | [] => .ok []
  | (k, d) :: rest =>
    match k.toKey with
    | .error e => .error e
    | .ok key =>
      match ofDatum d with
      | .error e => .error e
      | .ok v => (ofDatumEntries rest).map ((key, v) :: ·)

end

end Value

end Criteria
