/-
# Criteria.Pattern.Reader — from the text of a pattern to its expression

The grammar: branches separated by `|`; a branch is a row of pieces; a piece is a character, `.`, an
assertion, an escape, a bracketed class or a group, possibly repeated by `* + ?` or a counted
repetition in braces, each with an optional `?` after it. Repetitions stack. A group captures, with or
without a name, or does not capture, and may set flags; flags in parentheses of their own hold until
the enclosing group ends, in the branches still to come as well.

The reader keeps the groups that are still open on a stack (`OpenGroup`) and reads one piece, or one
operator, per step. What it refuses:

* groups and classes that are not closed, and groups that were not opened;
* a repetition with nothing before it — nor is there anything to repeat in a setting of flags — and
  counts that are malformed, reversed or beyond 32 bits;
* escapes without a meaning, back references and look-around;
* group names that are empty, malformed or used twice, and flags that are unknown, repeated, or
  missing after a hyphen;
* patterns that nest too deep (`nestLimit`) or would grow too large (`sizeLimit`).
-/
import Criteria.Pattern.CharClass

namespace Criteria.Pattern

open Criteria.Text

/-! ## Flags -/

/-- The flags that say how what follows is read. -/
structure Flags where
  /-- Characters that differ only in case are the same. -/
  ignoreCase : Bool
  /-- The assertions `^` and `$` hold at line ends, too. -/
  multiLine : Bool
  /-- The point stands for the line feed, too. -/
  dotAll : Bool

/-- No flag is set. -/
def Flags.none : Flags := ⟨false, false, false⟩

/-- Sets or clears the flag with a letter. Greed and Unicode mode have letters as well: the first
does not bear on whether a pattern matches, and the second is always on, so it cannot be cleared. -/
def Flags.set? (f : Flags) (letter : Char) (value : Bool) : Option Flags :=
  match letter with
  | 'i' => some { f with ignoreCase := value }
  | 'm' => some { f with multiLine := value }
  | 's' => some { f with dotAll := value }
  | 'U' => some f
  | 'u' => if value then some f else Option.none
  | _ => Option.none

/-- What the letters between `(?` and the end of a setting do. -/
structure FlagReading where
  flags : Flags
  /-- The letters so far. -/
  letters : List Char
  /-- Whether a hyphen was read. -/
  negated : Bool
  /-- Whether the hyphen was the last thing read. -/
  dangling : Bool

/-- The flags of a setting, its last character (a colon or a closing parenthesis), whether it had
any letter, and what remains. -/
def readFlags (r : FlagReading) : List Char → Option (Flags × Char × Bool × List Char)
  | [] => none
  | c :: rest =>
    if c == ':' || c == ')' then
      if r.dangling then none else some (r.flags, c, !r.letters.isEmpty, rest)
    else if c == '-' then
      if r.negated then none else readFlags { r with negated := true, dangling := true } rest
    else if r.letters.contains c then none
    else
      match r.flags.set? c (!r.negated) with
      | some flags => readFlags ⟨flags, c :: r.letters, r.negated, false⟩ rest
      | none => none

/-! ## Pieces -/

/-- A part of a pattern that has been read. -/
structure Piece where
  /-- What it matches. -/
  expression : Expression
  /-- How deep it nests. -/
  depth : Nat
  /-- Whether it can be repeated; a setting of flags cannot. -/
  repeatable : Bool

namespace Piece

/-- A piece that is not made of others. -/
def simple (e : Expression) : Piece := ⟨e, 0, true⟩

/-- A setting of flags. -/
def setting : Piece := ⟨.empty, 0, false⟩

/-- The depth of several pieces: a row or a choice of two or more is a level of its own. -/
def jointDepth : List Piece → Nat
  | [] => 0
  | [p] => p.depth
  | ps => 1 + ps.foldl (fun d p => max d p.depth) 0

/-- Pieces in a row, the last one given first. -/
def row (reversed : List Piece) : Piece :=
  let ps := reversed.reverse
  ⟨.sequence (ps.map expression), jointDepth ps, true⟩

/-- A choice between branches, the last one given first. -/
def choice (reversed : List Piece) : Piece :=
  let ps := reversed.reverse
  ⟨.choice (ps.map expression), jointDepth ps, true⟩

/-- A piece repeated. -/
def times (p : Piece) (least : Nat) (most : Option Nat) : Piece :=
  ⟨.times p.expression least most, p.depth + 1, true⟩

/-- A piece in a group of its own. -/
def grouped (p : Piece) : Piece := ⟨p.expression, p.depth + 1, true⟩

end Piece

/-- One character, or any that differs from it only in case. -/
def literalPiece (flags : Flags) (c : Char) : Piece :=
  .simple (.one (finishSet flags.ignoreCase false (.single c)))

/-- The point. -/
def dotPiece (flags : Flags) : Piece :=
  .simple (.one (if flags.dotAll then CharSet.full else (CharSet.single '\n').complement))

/-- The piece that an escape stands for. -/
def escapePiece (flags : Flags) : Escape → Piece
  | .literal c => literalPiece flags c
  | .charClass set => .simple (.one set)
  | .look a => .simple (.look a)

/-! ## Repetition counts -/

/-- The greatest count of a repetition. -/
def countLimit : Nat := 0xFFFFFFFF

/-- A decimal number, with white space allowed around it. -/
def readCount (cs : List Char) : Option (Nat × List Char) :=
  let start := cs.dropWhile Unicode.blank.contains
  let digits := start.takeWhile Char.isDigit
  let n := Nat.ofDigitChars 10 digits 0
  if digits.isEmpty || countLimit < n then none
  else some (n, (start.dropWhile Char.isDigit).dropWhile Unicode.blank.contains)

/-- A counted repetition, from the characters after its opening brace. -/
def readBounds (cs : List Char) : Option (Nat × Option Nat × List Char) :=
  match readCount cs with
  | some (least, '}' :: rest) => some (least, some least, rest)
  | some (least, ',' :: '}' :: rest) => some (least, none, rest)
  | some (least, ',' :: rest) =>
    match readCount rest with
    | some (most, '}' :: after) => if least ≤ most then some (least, some most, after) else none
    | _ => none
  | _ => none

/-- Passes over the question mark that may follow a repetition. -/
def skipLazy : List Char → List Char
  | '?' :: rest => rest
  | cs => cs

/-! ## Groups -/

/-- A group whose end has not been reached: what to go back to when it has. -/
structure OpenGroup where
  /-- The flags outside. -/
  flags : Flags
  /-- The pieces before it in its branch, the last one first. -/
  pieces : List Piece
  /-- The branches before its own, the last one first. -/
  branches : List Piece

/-- How far a pattern has been read. -/
structure Progress where
  flags : Flags
  /-- The pieces of the current branch, the last one first. -/
  pieces : List Piece
  /-- The finished branches of the innermost open group, the last one first. -/
  branches : List Piece
  /-- The open groups, the innermost first. -/
  groups : List OpenGroup
  names : List (List Char)

namespace Progress

/-- Nothing has been read. -/
def start : Progress := ⟨.none, [], [], [], []⟩

/-- One more piece in the current branch. -/
def add (s : Progress) (p : Piece) : Progress := { s with pieces := p :: s.pieces }

/-- The last piece of the branch repeated, if there is one that can be. -/
def repeatLast (s : Progress) (least : Nat) (most : Option Nat) : Option Progress :=
  match s.pieces with
  | p :: rest => if p.repeatable then some { s with pieces := p.times least most :: rest } else none
  | [] => none

/-- A new branch. -/
def nextBranch (s : Progress) : Progress :=
  { s with pieces := [], branches := .row s.pieces :: s.branches }

/-- All branches of the innermost open group. -/
def whole (s : Progress) : Piece := .choice (.row s.pieces :: s.branches)

/-- A group begins, with flags of its own. -/
def openGroup (s : Progress) (flags : Flags) : Progress :=
  { s with
    flags := flags
    pieces := []
    branches := []
    groups := ⟨s.flags, s.pieces, s.branches⟩ :: s.groups }

/-- The innermost open group ends, if there is one. -/
def closeGroup (s : Progress) : Option Progress :=
  match s.groups with
  | g :: below =>
    some { s with
      flags := g.flags
      pieces := s.whole.grouped :: g.pieces
      branches := g.branches
      groups := below }
  | [] => none

end Progress

/-- Whether a character may stand in a group name, at its start or later. -/
def isNameChar (atStart : Bool) (c : Char) : Bool :=
  c == '_' || Unicode.alphabetic.contains c
    || (!atStart && (c == '.' || c == '[' || c == ']'
      || Unicode.decimalDigit.contains c || Unicode.otherNumeral.contains c))

/-- A group name, up to its closing angle bracket. -/
def readName (cs : List Char) : Option (List Char × List Char) :=
  let name := cs.takeWhile (· != '>')
  match name, cs.dropWhile (· != '>') with
  | c :: more, _ :: rest =>
    if isNameChar true c && more.all (isNameChar false) then some (name, rest) else none
  | _, _ => none

/-- The beginning of a group, or a setting of flags, from the characters after the parenthesis. -/
def readOpenGroup (s : Progress) : List Char → Option (Progress × List Char)
  | '?' :: '=' :: _ => none
  | '?' :: '!' :: _ => none
  | '?' :: '<' :: '=' :: _ => none
  | '?' :: '<' :: '!' :: _ => none
  | '?' :: 'P' :: '<' :: rest => named rest
  | '?' :: '<' :: rest => named rest
  | '?' :: rest =>
    match readFlags ⟨s.flags, [], false, false⟩ rest with
    | some (flags, ':', _, after) => some (s.openGroup flags, after)
    | some (flags, _, true, after) => some ({ s with flags := flags }.add .setting, after)
    | _ => none
  | rest => some (s.openGroup s.flags, rest)
where
  /-- A group whose name begins here. -/
  named (cs : List Char) : Option (Progress × List Char) :=
    match readName cs with
    | some (name, rest) =>
      if s.names.contains name then none
      else some ({ s.openGroup s.flags with names := name :: s.names }, rest)
    | none => none

/-! ## The whole pattern -/

/-- One step: reads a piece, an operator, or one end of a group that begins with `c`. -/
def readStep (s : Progress) (c : Char) (rest : List Char) : Option (Progress × List Char) :=
  match c with
  | '(' => readOpenGroup s rest
  | ')' => s.closeGroup.map fun t => (t, rest)
  | '|' => some (s.nextBranch, rest)
  | '[' =>
    (readClass s.flags.ignoreCase rest).map fun (set, depth, after) =>
      (s.add ⟨.one set, depth, true⟩, after)
  | '*' => (s.repeatLast 0 none).map fun t => (t, skipLazy rest)
  | '+' => (s.repeatLast 1 none).map fun t => (t, skipLazy rest)
  | '?' => (s.repeatLast 0 (some 1)).map fun t => (t, skipLazy rest)
  | '{' =>
    (readBounds rest).bind fun (least, most, after) =>
      (s.repeatLast least most).map fun t => (t, skipLazy after)
  | '\\' => (readEscape rest).map fun (e, after) => (s.add (escapePiece s.flags e), after)
  | '.' => some (s.add (dotPiece s.flags), rest)
  | '^' =>
    some (s.add (.simple (.look (if s.flags.multiLine then .lineStart else .textStart))), rest)
  | '$' => some (s.add (.simple (.look (if s.flags.multiLine then .lineEnd else .textEnd))), rest)
  | _ => some (s.add (literalPiece s.flags c), rest)

/-- Reads to the end; `fuel` is at least the number of characters, each step reading one or more. -/
def readAll : Nat → Progress → List Char → Option Progress
  | _, s, [] => some s
  | 0, _, _ :: _ => none
  | fuel + 1, s, c :: rest =>
    match readStep s c rest with
    | some (t, after) => readAll fuel t after
    | none => none

/-- The deepest nesting of a pattern. -/
def nestLimit : Nat := 250

/-- The greatest size of an expression, with counted repetitions written out. -/
def sizeLimit : Nat := 320000

/-- The expression of a pattern, if the text is one. -/
def Expression.ofText? (text : List Char) : Option Expression :=
  match readAll text.length .start text with
  | some s =>
    let piece := s.whole
    if s.groups.isEmpty && piece.depth ≤ nestLimit && piece.expression.size ≤ sizeLimit then
      some piece.expression
    else none
  | none => none

end Criteria.Pattern
