/-
  Fragments: the pieces of a source text that are styled alike.

  A piece of a template literal is divided: the marks around a substitution are punctuators, and
  the rest is a string, which may be empty.  Every other token is one fragment.
-/
import SyntaxColor.Category
import SyntaxColor.Token.Trace

namespace SyntaxColor

/-- A piece of a source text and its category. -/
structure Fragment where
  category : Category
  text : Text
  deriving DecidableEq

namespace Fragment

/-- The mark that opens a substitution, the last two characters of a piece. -/
def holeOpening : Fragment := ⟨.punctuator, ['$', '{']⟩

/-- The mark that closes a substitution, the first character of a piece. -/
def holeClosing : Fragment := ⟨.punctuator, ['}']⟩

end Fragment

/-- The fragments of a token. -/
def Token.fragments (token : Token) : List Fragment :=
  let text := token.text
  match token.kind with
  | .templateHead => [⟨.string, text.take (text.length - 2)⟩, .holeOpening]
  | .templateMiddle =>
    [.holeClosing, ⟨.string, (text.take (text.length - 2)).drop 1⟩, .holeOpening]
  | .templateTail => [.holeClosing, ⟨.string, text.drop 1⟩]
  | _ => [⟨token.category, text⟩]

/-- The fragments of a source text, in which an expression may be a JSX element. -/
def Text.fragments (text : Text) : List Fragment := (text.tokens true).flatMap Token.fragments

end SyntaxColor
