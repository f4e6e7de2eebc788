/-
  Numbers.

  A number is written in one of four ways, which are tried in order: `0755` is octal and `0855` is
  not, `1n` is one number and `1e` is not.
-/
import SyntaxColor.Lexeme.Name

namespace SyntaxColor.Lexeme

/-- Digits after the first, each of which may have one underscore before it. -/
def moreDigits (isDigit : Char → Bool) : Text → Nat
  | '_' :: d :: rest => if isDigit d then moreDigits isDigit rest + 2 else 0
  | d :: rest => if isDigit d then moreDigits isDigit rest + 1 else 0
  | [] => 0

/-- Digits, with single underscores between them. -/
def digits (isDigit : Char → Bool) : Text → Nat
  | d :: rest => if isDigit d then moreDigits isDigit rest + 1 else 0
  | [] => 0

/-- Whether `c` is an octal digit. -/
def isOctalDigit (c : Char) : Bool := '0' ≤ c && c ≤ '7'

/-- Whether `c` is a binary digit. -/
def isBinaryDigit (c : Char) : Bool := c = '0' || c = '1'

/-- The digits that a letter after a leading zero announces. -/
def radixDigit? (letter : Char) : Option (Char → Bool) :=
  match letter with
  | 'x' | 'X' => some isHexDigit
  | 'o' | 'O' => some isOctalDigit
  | 'b' | 'B' => some isBinaryDigit
  | _ => none

/-- The mark of a big integer, `n`. -/
def bigMark : Text → Nat
  | 'n' :: _ => 1
  | _ => 0

/-- A hexadecimal, octal or binary integer, such as `0xFF` or `0b101n`. -/
def radixInteger : Text → Nat
  | '0' :: letter :: rest =>
    match radixDigit? letter with
    | some isDigit =>
      match digits isDigit rest with
      | 0 => 0
      | n + 1 => 2 + (n + 1) + bigMark (rest.drop (n + 1))
    | none => 0
  | _ => 0

/-- Decimal digits without a leading zero. -/
def positiveDigits (text : Text) : Nat :=
  match text with
  | '0' :: _ => 0
  | _ => digits Char.isDigit text

/-- A big integer in decimal digits, such as `10n`. -/
def bigInteger (text : Text) : Nat :=
  match text with
  | '0' :: 'n' :: _ => 2
  | _ =>
    let n := positiveDigits text
    if n ≠ 0 ∧ bigMark (text.drop n) ≠ 0 then n + 1 else 0

/-- The integer part of a decimal number.  With a leading zero it is the zero alone, or has
    an 8 or a 9 that keeps it from being octal, and then no underscores. -/
def integerPart (text : Text) : Nat :=
  match text with
  | '0' :: _ =>
    let run := text.takeWhile Char.isDigit
    if run.length = 1 || run.any fun d => d = '8' || d = '9' then run.length else 0
  | _ => positiveDigits text

/-- A point and the digits after it, if any. -/
def fractionPart : Text → Nat
  | '.' :: rest => digits Char.isDigit rest + 1
  | _ => 0

/-- The sign of an exponent. -/
def exponentSign : Text → Nat
  | '+' :: _ | '-' :: _ => 1
  | _ => 0

/-- An exponent, such as `e-7`. -/
def exponentPart : Text → Nat
  | e :: rest =>
    if e = 'e' || e = 'E' then
      let sign := exponentSign rest
      match digits Char.isDigit (rest.drop sign) with
      | 0 => 0
      | n + 1 => 1 + sign + (n + 1)
    else 0
  | [] => 0

/-- The digits of a decimal number before its exponent.  Without an integer part, a digit has
    to follow the point. -/
def mantissa (text : Text) : Nat :=
  match integerPart text with
  | 0 => if fractionPart text ≤ 1 then 0 else fractionPart text
  | n + 1 => n + 1 + fractionPart (text.drop (n + 1))

/-- A decimal number, such as `1`, `.5` or `6.02e23`. -/
def decimal (text : Text) : Nat :=
  match mantissa text with
  | 0 => 0
  | n + 1 => n + 1 + exponentPart (text.drop (n + 1))

/-- An octal integer that only a leading zero announces, such as `0755`. -/
def zeroOctal : Text → Nat
  | '0' :: rest =>
    let n := Text.runLength isOctalDigit rest
    if n = 0 then 0 else n + 1
  | _ => 0

/-- A number, written in the first of the ways that the text begins with. -/
def number (text : Text) : Nat :=
  match radixInteger text with
  | n + 1 => n + 1
  | 0 =>
    match bigInteger text with
    | n + 1 => n + 1
    | 0 =>
      match decimal text with
      | n + 1 => n + 1
      | 0 => zeroOctal text

end SyntaxColor.Lexeme
