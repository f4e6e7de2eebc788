/-
  Lexemes of JSX: the marks, names and quoted values in tags, and the text between tags.
-/
import SyntaxColor.Lexeme.Quotation
import SyntaxColor.Unicode.Identifier

namespace SyntaxColor.Lexeme

open Unicode

/-- A mark in a tag, always one character; `//` and `/*` begin comments instead. -/
def jsxMark : Text → Nat
  | '/' :: '/' :: _ => 0
  | '/' :: '*' :: _ => 0
  | c :: _ => if c ∈ ['<', '>', '.', ':', '=', '{', '}', '/'] then 1 else 0
  | [] => 0

/-- Whether `c` may stand in the name of a tag or an attribute after its beginning. -/
def isJsxNamePart (c : Char) : Bool := continuesName c || c = '-'

/-- The name of a tag or an attribute. -/
def jsxName (text : Text) : Nat :=
  match text with
  | c :: _ => if beginsName c then text.runLength isJsxNamePart else 0
  | [] => 0

/-- The length through the first `quote`, or of all the text if it has none. -/
def throughQuote (quote : Char) : Text → Nat
  | [] => 0
  | c :: rest => if c = quote then 1 else throughQuote quote rest + 1

/-- The value of an attribute in quotes: it has no escapes and may span lines. -/
def jsxValue : Text → Nat
  | quote :: rest => if isQuote quote then throughQuote quote rest + 1 else 0
  | [] => 0

/-- The characters that end a text between tags. -/
def isJsxDelimiter (c : Char) : Bool := c = '<' || c = '>' || c = '{' || c = '}'

/-- Text between tags. -/
def jsxContent (text : Text) : Nat := text.runLength fun c => !isJsxDelimiter c

end SyntaxColor.Lexeme
