/-
# Criteria.Pattern.Escape — what a backslash introduces

After a backslash stands a punctuation character that is to be taken literally, a letter for a
control character, a code point in hexadecimal, a letter for a class of characters, or an assertion.
Everything else is refused: back references, because an expression here is regular, and letters
without a meaning.

The readers take the characters after the backslash and give back what remains.
-/
import Criteria.Pattern.Expression
import Criteria.Text.Hexadecimal
import Criteria.Unicode.Blank

namespace Criteria.Pattern

open Criteria.Text

/-- What an escape stands for. -/
inductive Escape where
  | literal (c : Char)
  | charClass (set : CharSet)
  | look (a : Look)

/-- The character with a code point; surrogates and numbers beyond the last code point have none. -/
def charOfCode? (n : Nat) : Option Char :=
  if n.isValidChar then some (Char.ofNat n) else none

/-- A code point in exactly `count` digits, or in any positive number of digits between braces. -/
def readCode (count : Nat) : List Char → Option (Char × List Char)
  | '{' :: rest =>
    let digits := rest.takeWhile (· != '}')
    match rest.dropWhile (· != '}') with
    | [] => none
    | _ :: after => ((hexNumber? digits).bind charOfCode?).map fun c => (c, after)
  | cs =>
    let digits := cs.take count
    if digits.length < count then none
    else ((hexNumber? digits).bind charOfCode?).map fun c => (c, cs.drop count)

/-- Whether a backslash makes the character stand for itself: ASCII, neither letter nor digit, and
none of the two angle brackets. -/
def isEscapable (c : Char) : Bool :=
  c.toNat < 0x80 && !c.isAlphanum && c != '<' && c != '>'

/-- The character classes with a letter of their own; the upper-case letter names the complement. -/
def letterClass? : Char → Option CharSet
  | 'd' => some Unicode.decimalDigit
  | 'D' => some Unicode.decimalDigit.complement
  | 's' => some Unicode.blank
  | 'S' => some Unicode.blank.complement
  | 'w' => some Unicode.word
  | 'W' => some Unicode.word.complement
  | _ => none

/-- The control characters with a letter of their own. -/
def letterControl? : Char → Option Char
  | 'a' => some '\x07'
  | 'f' => some '\x0c'
  | 't' => some '\t'
  | 'n' => some '\n'
  | 'r' => some '\r'
  | 'v' => some '\x0b'
  | _ => none

/-- The assertions whose escape is a single character. -/
def letterLook? : Char → Option Look
  | 'A' => some .textStart
  | 'z' => some .textEnd
  | 'B' => some .noWordEdge
  | '<' => some .wordStart
  | '>' => some .wordEnd
  | _ => none

/-- The word assertions that are spelled out between braces. -/
def namedEdge? (name : String) : Option Look :=
  if name = "start" then some .wordStart
  else if name = "end" then some .wordEnd
  else if name = "start-half" then some .halfStart
  else if name = "end-half" then some .halfEnd
  else none

/-- The rest of a word assertion: it may be spelled out between braces. Braces that begin with
anything but a letter or a hyphen are left alone, as they count a repetition. -/
def readEdge (cs : List Char) : Option (Escape × List Char) :=
  let isNameChar := fun (c : Char) => c.isAlpha || c == '-'
  match cs with
  | '{' :: [] => none
  | '{' :: c :: rest =>
    if isNameChar c then
      let name := (c :: rest).takeWhile isNameChar
      match (c :: rest).dropWhile isNameChar with
      | '}' :: after => (namedEdge? (String.ofList name)).map fun a => (.look a, after)
      | _ => none
    else some (.look .wordEdge, cs)
  | _ => some (.look .wordEdge, cs)

/-- The escape that a backslash introduces, from the characters after the backslash. -/
def readEscape : List Char → Option (Escape × List Char)
  | [] => none
  | 'x' :: rest => (readCode 2 rest).map fun p => (.literal p.1, p.2)
  | 'u' :: rest => (readCode 4 rest).map fun p => (.literal p.1, p.2)
  | 'U' :: rest => (readCode 8 rest).map fun p => (.literal p.1, p.2)
  | 'b' :: rest => readEdge rest
  | c :: rest =>
    if isEscapable c then some (.literal c, rest)
    else
      match letterClass? c, letterControl? c, letterLook? c with
      | some set, _, _ => some (.charClass set, rest)
      | _, some d, _ => some (.literal d, rest)
      | _, _, some a => some (.look a, rest)
      | _, _, _ => none

end Criteria.Pattern
