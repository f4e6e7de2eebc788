/-
  Punctuators.

  Marks are looked for in order, and the first that the text begins with is read: those first that
  no equals sign makes longer, then the operators, to which an equals sign behind them belongs, and
  the other marks of one character last.  A point before a digit belongs to a number, and two
  slashes, or a slash and a star, begin a comment.
-/
import SyntaxColor.Text

namespace SyntaxColor.Lexeme

/-- Whether the text begins with a decimal digit. -/
def startsWithDigit (text : Text) : Bool := text.head?.any Char.isDigit

/-- Whether `text` begins with `mark`, and not with a number that begins at its point. -/
def isPunctuatorOf (text mark : Text) : Bool :=
  mark.isPrefixOf text &&
    !((mark = ['.'] || mark = ['?', '.']) && startsWithDigit (text.drop mark.length))

/-- The length of the first of the marks that the text begins with. -/
def firstMark (marks : List Text) (text : Text) : Nat :=
  match marks.find? (isPunctuatorOf text) with
  | some mark => mark.length
  | none => 0

/-- The marks that are looked for before the operators. -/
def earlyMarks : List Text :=
  [['-', '-'], ['+', '+'], ['=', '>'], ['.', '.', '.'], ['?', '.'], ['.']]

/-- The operators that an equals sign may follow. -/
def operators : List Text :=
  [['&', '&'], ['|', '|'], ['?', '?'], ['+'], ['-'], ['%'], ['&'], ['|'], ['^'], ['*', '*'], ['*'],
  ['<', '<'], ['<'], ['>', '>', '>'], ['>', '>'], ['>'], ['!', '='], ['!'], ['=', '='], ['='],
  ['/']]

/-- The marks that are looked for after the operators. -/
def lateMarks : List Text :=
  [['?'], ['~'], [','], [':'], [';'], ['['], [']'], ['('], [')'], ['{'], ['}']]

/-- An operator, without an equals sign behind it. -/
def operator (text : Text) : Nat :=
  match text with
  | '/' :: '/' :: _ => 0
  | '/' :: '*' :: _ => 0
  | _ => firstMark operators text

/-- The equals sign behind an operator. -/
def equalsSign : Text → Nat
  | '=' :: _ => 1
  | _ => 0

/-- A punctuator. -/
def punctuator (text : Text) : Nat :=
  match firstMark earlyMarks text with
  | n + 1 => n + 1
  | 0 =>
    match operator text with
    | n + 1 => n + 1 + equalsSign (text.drop (n + 1))
    | 0 => firstMark lateMarks text

end SyntaxColor.Lexeme
