/-
  The rules for JSX: what stands in tags and between them.
-/
import SyntaxColor.Lexeme.Jsx
import SyntaxColor.Token.Rule.Script

namespace SyntaxColor

/-! ## What marks change -/

namespace Context

/-- The context after the `>` of a tag.  A closing or self-closing tag ends an element, which is
    an operand; behind any other tag the children of an element begin. -/
def closeTag (s : Context) : Context :=
  if s.last = .token ['/'] ∨ s.region = .jsxClosingTag then
    (s.leave.seen .element).withOperand true
  else (s.leave.enter .jsxChildren).seen (.token ['>'])

/-- The context after a slash in a tag.  Right behind the `<` it makes the tag a closing one, which
    ends the children among which the tag stands. -/
def slashInTag (s : Context) : Context :=
  if s.last = .token ['<'] then
    let outer := s.leave
    let parent := if outer.region = .jsxChildren then outer.leave else outer
    (parent.enter .jsxClosingTag).seen (.token ['/'])
  else s.seen (.token ['/'])

end Context

/-! ## Rules -/

namespace Rule

/-- A mark in a tag. -/
def jsxMark : Rule := fun s text =>
  Step.ofLength? .jsxMark (Lexeme.jsxMark text) text fun mark =>
    match mark with
    | ['<'] => s.openTag
    | ['>'] => s.closeTag
    | ['{'] => s.openJsxHole
    | ['/'] => s.slashInTag
    | _ => s.seen (.token mark)

/-- The name of a tag or an attribute. -/
def jsxName : Rule := fun s text =>
  Step.ofLength? .jsxName (Lexeme.jsxName text) text fun name => s.seen (.token name)

/-- The value of an attribute in quotes. -/
def jsxValue : Rule := fun s text =>
  Step.ofLength? .jsxValue (Lexeme.jsxValue text) text fun value => s.seen (.token value)

/-- Text between tags. -/
def jsxContent : Rule := fun s text =>
  Step.ofLength? .jsxContent (Lexeme.jsxContent text) text fun content => s.seen (.token content)

/-- What opens among children: a tag, or an expression in braces. -/
def jsxChild : Rule := fun s text =>
  match text with
  | '<' :: _ => some ⟨.jsxMark, 1, s.openTag⟩
  | '{' :: _ => some ⟨.jsxMark, 1, s.openJsxHole⟩
  | _ => none

/-- The rules in tags, in the order in which they are tried. -/
def tag : List Rule := [jsxMark, jsxName, jsxValue]

/-- The rules between tags, in the order in which they are tried. -/
def children : List Rule := [jsxContent, jsxChild]

end Rule
end SyntaxColor
