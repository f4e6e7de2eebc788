/-
  Names: identifiers, private names and keywords alike.

  A name is made of characters and of escapes, which stand for a character by its code point.
-/
import SyntaxColor.Text
import SyntaxColor.Unicode.Identifier

namespace SyntaxColor.Lexeme

open Unicode

/-- Whether `c` is a hexadecimal digit. -/
def isHexDigit (c : Char) : Bool :=
  c.isDigit || ('a' ≤ c && c ≤ 'f') || ('A' ≤ c && c ≤ 'F')

/-- An escape in a name: `\u` and four hexadecimal digits, or `\u` and at least one
    hexadecimal digit in braces. -/
def nameEscape : Text → Nat
  | '\\' :: 'u' :: '{' :: rest =>
    let digits := Text.runLength isHexDigit rest
    if digits ≠ 0 ∧ (rest.drop digits).head? = some '}' then digits + 4 else 0
  | '\\' :: 'u' :: h₁ :: h₂ :: h₃ :: h₄ :: _ =>
    if isHexDigit h₁ && isHexDigit h₂ && isHexDigit h₃ && isHexDigit h₄ then 6 else 0
  | _ => 0

/-- The length of the parts of a name at the start of the text, of which the first `pending`
    characters belong to an escape that was already read. -/
def nameParts (pending : Nat) : Text → Nat
  | [] => 0
  | c :: rest =>
    match pending with
    | pending + 1 => nameParts pending rest + 1
    | 0 =>
      if continuesName c then nameParts 0 rest + 1
      else match nameEscape (c :: rest) with
        | 0 => 0
        | pending + 1 => nameParts pending rest + 1

/-- A name that is not private. -/
def plainName (text : Text) : Nat :=
  match text with
  | c :: _ => if beginsName c || c = '\\' then nameParts 0 text else 0
  | [] => 0

/-- A name; a private one has a `#` before it. -/
def name (text : Text) : Nat :=
  match text with
  | '#' :: rest => if plainName rest = 0 then 0 else plainName rest + 1
  | _ => plainName text

end SyntaxColor.Lexeme
