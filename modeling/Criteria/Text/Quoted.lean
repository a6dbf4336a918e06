/-
# Criteria.Text.Quoted — double-quoted text with backslash escapes

A quoted text is a double quote, the escaped characters, and a double quote. Which characters are
escaped is a parameter (`quoteWith`); HOW one is escaped is fixed once, in `escapeChar`: a quote and
a backslash get a backslash, the four controls with a letter of their own (`\0 \t \n \r`) get that
letter, and every other character becomes a braced code point in lower-case hexadecimal without
padding.

`quote` is the instance the renderers and the failure messages use: it escapes the quote, the
backslash and the control characters, and leaves every printable character alone, whatever script it
belongs to. Its output therefore never holds a control character, and a quote inside it always
follows a backslash, so it ends where a reader expects it to end.
-/

namespace Criteria.Text

/-- The control characters: the two blocks of code points below U+0020 and from U+007F to U+009F. -/
def isControl (c : Char) : Bool :=
  c.toNat < 0x20 || (0x7f ≤ c.toNat && c.toNat < 0xa0)

/-- A code point as a braced escape, lower-case and unpadded. -/
def escapeCode (c : Char) : List Char :=
  '\\' :: 'u' :: '{' :: (Nat.toDigits 16 c.toNat ++ ['}'])

/-- The escaped form of one character. -/
def escapeChar : Char → List Char
  | '"' => ['\\', '"']
  | '\\' => ['\\', '\\']
  | '\x00' => ['\\', '0']
  | '\t' => ['\\', 't']
  | '\n' => ['\\', 'n']
  | '\r' => ['\\', 'r']
  | c => escapeCode c

/-- The characters of a text, those that `needs` picks out in their escaped form. -/
def escapeWith (needs : Char → Bool) : List Char → List Char
  | [] => []
  | c :: rest => (if needs c then escapeChar c else [c]) ++ escapeWith needs rest

/-- A text between double quotes, escaping what `needs` picks out. -/
def quoteWith (needs : Char → Bool) (s : String) : String :=
  String.ofList ('"' :: (escapeWith needs s.toList ++ ['"']))

/-- Whether a quoted text has to escape the character: quotes, backslashes and controls. -/
def isSpecial (c : Char) : Bool :=
  c == '"' || c == '\\' || isControl c

/-- A text between double quotes, with quotes, backslashes and control characters escaped. -/
def quote (s : String) : String :=
  quoteWith isSpecial s

end Criteria.Text
