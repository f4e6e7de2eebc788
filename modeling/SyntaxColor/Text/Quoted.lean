/-
  The quoted form of a text: one line of printable characters between double quotes.

  A backslash begins an escape.  The quote, the backslash, the common blanks and the null
  character have escapes of two characters; any other character that cannot be shown on its own
  is written by its code point in hexadecimal digits.
-/
import SyntaxColor.Text
import SyntaxColor.Unicode.Printable

namespace SyntaxColor.Text

/-- The escape that names a character by its code point. -/
def codePointEscape (c : Char) : Text :=
  ['\\', 'u', '{'] ++ Nat.toDigits 16 c.toNat ++ ['}']

/-- How `c` is written between the quotes. -/
def quotedChar (c : Char) : Text :=
  match c with
  | '"' => ['\\', '"']
  | '\\' => ['\\', '\\']
  | '\t' => ['\\', 't']
  | '\r' => ['\\', 'r']
  | '\n' => ['\\', 'n']
  | '\x00' => ['\\', '0']
  | c => if Unicode.isPrintable c then [c] else codePointEscape c

/-- The text in double quotes, on one line. -/
def quoted (text : Text) : Text := ['"'] ++ text.flatMap quotedChar ++ ['"']

end SyntaxColor.Text
