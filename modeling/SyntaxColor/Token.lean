/-
  Tokens: the pieces of a source text, each with its kind.
-/
import SyntaxColor.Text

namespace SyntaxColor

/-- The kinds of tokens. -/
inductive Kind where
  | identifier
  /-- A name with `#` before it. -/
  | privateName
  | number
  | string
  /-- A template literal without substitutions. -/
  | template
  /-- From the opening backtick through the opening of the first substitution. -/
  | templateHead
  /-- From the end of a substitution through the opening of the next one. -/
  | templateMiddle
  /-- From the end of the last substitution through the closing backtick. -/
  | templateTail
  | regex
  | punctuator
  | blockComment
  | lineComment
  /-- The line that names an interpreter. -/
  | hashbang
  /-- White space within a line. -/
  | whitespace
  | lineBreak
  /-- A character that begins no token. -/
  | stray
  /-- The value of an attribute in quotes. -/
  | jsxValue
  /-- Text between tags. -/
  | jsxContent
  /-- The name of a tag or an attribute. -/
  | jsxName
  /-- A punctuator of JSX: it stands in a tag, or opens or closes an expression in braces. -/
  | jsxMark
  /-- A character that begins no token in a tag or between tags. -/
  | jsxStray
  deriving DecidableEq

/-- A piece of a source text and its kind. -/
structure Token where
  kind : Kind
  text : Text
  deriving DecidableEq

end SyntaxColor
