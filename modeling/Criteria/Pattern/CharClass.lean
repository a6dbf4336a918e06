/-
# Criteria.Pattern.CharClass — bracketed character classes

Between square brackets stand characters, ranges, escapes, named ASCII classes such as `[:alpha:]` and
classes of their own; all of them together form a union. A circumflex at the start takes the
complement, and `&&`, `--` and `~~` combine the union before them with the one after them, from left
to right.

Classes nest, so the reader keeps the outer ones on a stack (`ClassFrame`): an opened class waits with
the union read before it, an operation with its left operand. When case is ignored a class is closed
under case before it is complemented and before it becomes an operand.

Beside its set a class carries its nesting depth, because patterns that nest too deep are refused.
-/
import Criteria.Pattern.Escape
import Criteria.Unicode.CaseFolding

namespace Criteria.Pattern

open Criteria.Text

/-! ## Unions -/

/-- A union that is still growing. -/
structure ClassUnion where
  set : CharSet
  /-- How many items went in. -/
  count : Nat
  /-- The nesting depth of the deepest item. -/
  depth : Nat

namespace ClassUnion

/-- The union of nothing. -/
def empty : ClassUnion := ⟨CharSet.empty, 0, 0⟩

/-- One more item. -/
def add (u : ClassUnion) (set : CharSet) (depth : Nat) : ClassUnion :=
  ⟨u.set.union set, u.count + 1, max u.depth depth⟩

/-- The nesting depth of the whole; a union of two or more items is a level of its own. -/
def nesting (u : ClassUnion) : Nat := if u.count < 2 then u.depth else u.depth + 1

end ClassUnion

/-- The operations between the unions of a class. -/
inductive ClassOp where
  /-- The characters of both sides. -/
  | inter
  /-- The characters of the left side only. -/
  | difference
  /-- The characters of exactly one side. -/
  | symmetricDifference

/-- The set that an operation makes of two. -/
def ClassOp.apply : ClassOp → CharSet → CharSet → CharSet
  | .inter, s, t => s.inter t
  | .difference, s, t => s.difference t
  | .symmetricDifference, s, t => s.symmetricDifference t

/-! ## Named ASCII classes -/

/-- The ASCII classes that have a name. -/
def asciiClass? (name : String) : Option CharSet :=
  let digits := (0x30, 0x39)
  let uppers := (0x41, 0x5a)
  let lowers := (0x61, 0x7a)
  match name with
  | "alnum" => some (.ofPairs [digits, uppers, lowers])
  | "alpha" => some (.ofPairs [uppers, lowers])
  | "ascii" => some (.between 0x00 0x7f)
  | "blank" => some (.ofPairs [(0x09, 0x09), (0x20, 0x20)])
  | "cntrl" => some (.ofPairs [(0x00, 0x1f), (0x7f, 0x7f)])
  | "digit" => some (.ofPairs [digits])
  | "graph" => some (.between 0x21 0x7e)
  | "lower" => some (.ofPairs [lowers])
  | "print" => some (.between 0x20 0x7e)
  | "punct" => some (.ofPairs [(0x21, 0x2f), (0x3a, 0x40), (0x5b, 0x60), (0x7b, 0x7e)])
  | "space" => some (.ofPairs [(0x09, 0x0d), (0x20, 0x20)])
  | "upper" => some (.ofPairs [uppers])
  | "word" => some (.ofPairs [digits, uppers, (0x5f, 0x5f), lowers])
  | "xdigit" => some (.ofPairs [digits, (0x41, 0x46), (0x61, 0x66)])
  | _ => none

/-- The set of a complete class, given whether case is ignored and whether it is negated. -/
def finishSet (ignoreCase negated : Bool) (set : CharSet) : CharSet :=
  let closed := if ignoreCase then Unicode.closeUnderCase set else set
  if negated then closed.complement else closed

/-- A named class, from the characters after its opening bracket. If what stands there is not a
named class, the bracket opens a class like any other. -/
def readAsciiClass (ignoreCase : Bool) : List Char → Option (CharSet × List Char)
  | ':' :: rest =>
    let (negated, body) :=
      match rest with
      | '^' :: tail => (true, tail)
      | _ => (false, rest)
    match body.dropWhile (· != ':') with
    | ':' :: ']' :: after =>
      (asciiClass? (String.ofList (body.takeWhile (· != ':')))).map fun set =>
        (finishSet ignoreCase negated set, after)
    | _ => none
  | _ => none

/-! ## Items -/

/-- One item of a class that is not a range: a character, or the class that an escape names. -/
def readItem : List Char → Option (Escape × List Char)
  | [] => none
  | '\\' :: rest =>
    match readEscape rest with
    | some (.look _, _) => none
    | other => other
  | c :: rest => some (.literal c, rest)

/-- The characters that an item stands for. -/
def Escape.set : Escape → CharSet
  | .literal c => .single c
  | .charClass set => set
  | .look _ => .empty

/-- An item or a range of characters. A hyphen makes a range unless a hyphen or the end of the class
follows it; the ends of a range are characters, in ascending order. -/
def readRange (cs : List Char) : Option (CharSet × List Char) :=
  match readItem cs with
  | none => none
  | some (start, rest) =>
    match rest with
    | [] => none
    | '-' :: ']' :: _ => some (start.set, rest)
    | '-' :: '-' :: _ => some (start.set, rest)
    | '-' :: tail =>
      match start, readItem tail with
      | .literal a, some (.literal b, after) =>
        if a.toNat ≤ b.toNat then some (.between a.toNat b.toNat, after) else none
      | _, _ => none
    | _ => some (start.set, rest)

/-! ## Classes -/

/-- What waits while a class, or the right operand of an operation, is read. -/
inductive ClassFrame where
  /-- A class was opened inside `outer`. -/
  | opened (outer : ClassUnion) (negated : Bool)
  /-- An operation awaits its right operand. -/
  | operand (op : ClassOp) (left : CharSet) (depth : Nat)

/-- The start of a class, from the characters after its opening bracket: whether it is negated, and
the characters that stand for themselves only there — hyphens, or a closing bracket. -/
def readOpening (cs : List Char) : Option (Bool × ClassUnion × List Char) :=
  let (negated, body) :=
    match cs with
    | '^' :: rest => (true, rest)
    | _ => (false, cs)
  let hyphens := body.takeWhile (· == '-')
  let start := hyphens.foldl (fun u c => u.add (.single c) 0) ClassUnion.empty
  match body.dropWhile (· == '-') with
  | [] => none
  | ']' :: rest =>
    if hyphens.isEmpty then some (negated, start.add (.single ']') 0, rest)
    else some (negated, start, ']' :: rest)
  | rest => some (negated, start, rest)

/-- Applies the operation that awaits its right operand, if one does; gives the set, its depth and
the frames below. -/
def applyPending (ignoreCase : Bool) (u : ClassUnion) :
    List ClassFrame → CharSet × Nat × List ClassFrame
  | .operand op left depth :: frames =>
    let fold := finishSet ignoreCase false
    (op.apply (fold left) (fold u.set), 1 + max depth u.nesting, frames)
  | frames => (u.set, u.nesting, frames)

/-- The operation that starts here, if one does. -/
def readOp : List Char → Option (ClassOp × List Char)
  | '&' :: '&' :: rest => some (.inter, rest)
  | '-' :: '-' :: rest => some (.difference, rest)
  | '~' :: '~' :: rest => some (.symmetricDifference, rest)
  | _ => none

/-- The rest of a class, with the union of the innermost open class and the frames around it; `fuel`
is at least the number of characters, each round reading one or more. -/
def readClassRest (ignoreCase : Bool) :
    Nat → ClassUnion → List ClassFrame → List Char → Option (CharSet × Nat × List Char)
  | 0, _, _, _ => none
  | _ + 1, _, _, [] => none
  | fuel + 1, u, frames, '[' :: rest =>
    match readAsciiClass ignoreCase rest with
    | some (set, after) => readClassRest ignoreCase fuel (u.add set 0) frames after
    | none =>
      match readOpening rest with
      | some (negated, inner, after) =>
        readClassRest ignoreCase fuel inner (.opened u negated :: frames) after
      | none => none
  | fuel + 1, u, frames, ']' :: rest =>
    match applyPending ignoreCase u frames with
    | (set, depth, .opened outer negated :: below) =>
      let whole := finishSet ignoreCase negated set
      match below with
      | [] => some (whole, depth + 1, rest)
      | _ => readClassRest ignoreCase fuel (outer.add whole (depth + 1)) below rest
    | _ => none
  | fuel + 1, u, frames, cs =>
    match readOp cs with
    | some (op, after) =>
      let (left, depth, below) := applyPending ignoreCase u frames
      readClassRest ignoreCase fuel ClassUnion.empty (.operand op left depth :: below) after
    | none =>
      match readRange cs with
      | some (set, after) => readClassRest ignoreCase fuel (u.add set 0) frames after
      | none => none

/-- A bracketed class, from the characters after its opening bracket: its set, its nesting depth and
what remains. -/
def readClass (ignoreCase : Bool) (cs : List Char) : Option (CharSet × Nat × List Char) :=
  match readOpening cs with
  | some (negated, u, rest) =>
    readClassRest ignoreCase (cs.length + 1) u [.opened ClassUnion.empty negated] rest
  | none => none

end Criteria.Pattern
