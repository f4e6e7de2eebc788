/-
  Lexemes that separate others: white space, line breaks and comments.

  A scanner looks at the start of a text and gives the number of characters of the lexeme that
  it finds there, 0 if there is none.
-/
import SyntaxColor.Text
import SyntaxColor.Unicode.RangeTable

namespace SyntaxColor.Lexeme

open Text

/-- The white space characters: those of ASCII, the byte order mark, and Unicode's spaces. -/
def blankTable : Unicode.RangeTable :=
  [(0x0009, 0x0009), (0x000B, 0x000C), (0x0020, 0x0020), (0x00A0, 0x00A0), (0x1680, 0x1680),
  (0x2000, 0x200A), (0x202F, 0x202F), (0x205F, 0x205F), (0x3000, 0x3000), (0xFEFF, 0xFEFF)]

/-- Whether `c` is white space within a line. -/
def isBlank (c : Char) : Bool := blankTable.covers c

/-- White space within a line. -/
def whitespace (text : Text) : Nat := text.runLength isBlank

/-- A line break. -/
def lineBreak (text : Text) : Nat := text.lineBreakLength

/-- The length of the line at the start of the text, its line break not included. -/
def lineLength (text : Text) : Nat := text.runLength fun c => !isLineEnd c

/-- The line that names an interpreter, `#!` and what follows it on its line. -/
def hashbang (text : Text) : Nat :=
  match text with
  | '#' :: '!' :: _ => lineLength text
  | _ => 0

/-- A comment up to the end of its line. -/
def lineComment (text : Text) : Nat :=
  match text with
  | '/' :: '/' :: _ => lineLength text
  | _ => 0

/-- The length up to the end of the first `*/`, or of all the text if it has none. -/
def throughCommentEnd : Text → Nat
  | [] => 0
  | '*' :: '/' :: _ => 2
  | _ :: rest => throughCommentEnd rest + 1

/-- A comment between `/*` and `*/`; one without an end takes all of the text. -/
def blockComment : Text → Nat
  | '/' :: '*' :: rest => throughCommentEnd rest + 2
  | _ => 0

end SyntaxColor.Lexeme
