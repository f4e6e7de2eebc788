/-
  Regular expressions.

  A slash inside a character class does not end the expression.  An expression that is not
  closed ends with its line.
-/
import SyntaxColor.Text
import SyntaxColor.Unicode.Identifier

namespace SyntaxColor.Lexeme

open Text Unicode

/-- The length of a regular expression after its opening slash, the flags after its closing slash
    included; `inClass` tells whether a character class is open. -/
def regexBody (inClass : Bool) : Text → Nat
  | [] => 0
  | ['\\'] => 1
  | '\\' :: e :: rest => if isLineEnd e then 1 else regexBody inClass rest + 2
  | c :: rest =>
    if isLineEnd c then 0
    else if c = '/' && !inClass then Text.runLength continuesName rest + 1
    else if c = '[' then regexBody true rest + 1
    else if c = ']' then regexBody false rest + 1
    else regexBody inClass rest + 1

/-- A regular expression; `//` and `/*` begin comments instead. -/
def regex : Text → Nat
  | '/' :: '/' :: _ => 0
  | '/' :: '*' :: _ => 0
  | '/' :: rest => regexBody false rest + 1
  | _ => 0

end SyntaxColor.Lexeme
