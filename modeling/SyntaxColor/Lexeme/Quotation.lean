/-
  Quoted lexemes: strings, and the pieces of template literals.

  In both a backslash takes the character after it, so that this cannot end the lexeme.  A
  backslash that ends the text takes nothing and is left over.
-/
import SyntaxColor.Text

namespace SyntaxColor.Lexeme

/-- The length of a string after its opening quote: through the closing quote, or up to the
    end of the line. -/
def stringBody (quote : Char) : Text → Nat
  | [] => 0
  | ['\\'] => 0
  | '\\' :: '\r' :: '\n' :: rest => stringBody quote rest + 3
  | '\\' :: _ :: rest => stringBody quote rest + 2
  | c :: rest =>
    if c = quote then 1
    else if c = '\n' || c = '\r' then 0
    else stringBody quote rest + 1

/-- Whether `c` is a single or a double quote. -/
def isQuote (c : Char) : Bool := c = '\'' || c = '"'

/-- A string in single or double quotes. -/
def string : Text → Nat
  | quote :: rest => if isQuote quote then stringBody quote rest + 1 else 0
  | [] => 0

/-- What ends a piece of a template literal. -/
inductive PieceEnd where
  /-- The closing backtick. -/
  | closed
  /-- The two characters that open a substitution. -/
  | hole
  /-- The end of the text. -/
  | cutOff
  deriving DecidableEq

/-- The length of a piece of a template literal, and what ends it. -/
structure TemplatePiece where
  length : Nat
  ending : PieceEnd
  deriving DecidableEq

/-- The piece with `n` more characters before it. -/
def TemplatePiece.after (n : Nat) (piece : TemplatePiece) : TemplatePiece :=
  ⟨piece.length + n, piece.ending⟩

/-- A piece of a template literal after its first character. -/
def templateBody : Text → TemplatePiece
  | [] => ⟨0, .cutOff⟩
  | ['\\'] => ⟨0, .cutOff⟩
  | '\\' :: _ :: rest => (templateBody rest).after 2
  | '$' :: '{' :: _ => ⟨2, .hole⟩
  | c :: rest => if c = '\x60' then ⟨1, .closed⟩ else (templateBody rest).after 1

/-- A piece of a template literal: it begins with the opening backtick or with the brace that
    closes a substitution. -/
def templatePiece? : Text → Option TemplatePiece
  | c :: rest => if c = '\x60' || c = '}' then some ((templateBody rest).after 1) else none
  | [] => none

end SyntaxColor.Lexeme
