/-
  The rules for script: regular expressions, punctuators, names, strings, numbers and template
  literals.

  A closing brace may be the end of a substitution or of an expression within JSX, and a `<` the
  beginning of a tag; the rules for these come before the one for punctuators.
-/
import SyntaxColor.Lexeme.Name
import SyntaxColor.Lexeme.Number
import SyntaxColor.Lexeme.Punctuator
import SyntaxColor.Lexeme.Quotation
import SyntaxColor.Lexeme.Regex
import SyntaxColor.Token.Rule.Basic

namespace SyntaxColor

/-! ## What punctuators change -/

namespace Context

/-- The context after an opening parenthesis.  Behind a control keyword it opens the head of the
    statement. -/
def openParen (s : Context) : Context :=
  let inner := if s.last = .controlKeyword then s.enter (.controlHead s.parenDepth) else s
  { inner with parenDepth := s.parenDepth + 1 }.afterOperator ['(']

/-- The context after a closing parenthesis, which is an operand unless it closes the head of a
    control statement. -/
def closeParen (s : Context) : Context :=
  let outer := { s with parenDepth := s.parenDepth - 1 }
  if s.region = .controlHead outer.parenDepth then
    (outer.leave.seen .controlHeadEnd).withOperand false
  else outer.afterOperand [')']

/-- Whether a brace here opens an object. -/
def opensObject (s : Context) : Bool := !s.last.blockMayFollow && s.last.expressionMayFollow

/-- The context after an opening brace. -/
def openBrace (s : Context) : Context :=
  { s with openBraces := s.opensObject :: s.openBraces }.afterOperator ['{']

/-- The context after a closing brace, which is an operand if it closes an object. -/
def closeBrace (s : Context) : Context :=
  let outer := { s with openBraces := s.openBraces.tail }
  if s.openBraces.headD false then (outer.seen .objectEnd).withOperand true
  else outer.afterOperator ['}']

/-- The context after a `++` or `--`, which is behind its operand if there is one right before. -/
def update (s : Context) : Context :=
  s.seen (if s.operandBefore then .postfixUpdate else .prefixUpdate)

/-- The context after a punctuator with this text. -/
def afterPunctuator (s : Context) (mark : Text) : Context :=
  match mark with
  | ['('] => s.openParen
  | [')'] => s.closeParen
  | ['{'] => s.openBrace
  | ['}'] => s.closeBrace
  | [']'] => s.afterOperand [']']
  | ['+', '+'] => s.update
  | ['-', '-'] => s.update
  | _ => s.afterOperator mark

/-! ## What opens within script and JSX -/

/-- The context inside a substitution that opens here. -/
def openTemplateHole (s : Context) : Context :=
  ((s.enter (.templateHole s.openBraces.length)).seen .templateHole).withOperand false

/-- The context inside an expression within JSX that opens here. -/
def openJsxHole (s : Context) : Context :=
  ((s.enter (.jsxHole s.openBraces.length)).seen .jsxHole).withOperand false

/-- The context in a tag that opens here. -/
def openTag (s : Context) : Context := (s.enter .jsxTag).seen (.token ['<'])

end Context

/-! ## Rules -/

namespace Rule

/-- A regular expression stands where an expression may begin. -/
def regex : Rule := fun s text =>
  if s.last.expressionMayFollow then
    Step.ofLength? .regex (Lexeme.regex text) text s.afterOperand
  else none

/-- The piece of a template literal behind a substitution, which may open another one.  It begins
    at the closing brace, if no brace is open since the substitution began. -/
def templateRest : Rule := fun s text =>
  if s.region = .templateHole s.openBraces.length ∧ text.head? = some '}' then
    (Lexeme.templatePiece? text).map fun piece =>
      match piece.ending with
      | .hole => ⟨.templateMiddle, piece.length, (s.seen .templateHole).withOperand false⟩
      | _ => ⟨.templateTail, piece.length, s.leave.afterOperand (text.take piece.length)⟩
  else none

/-- The brace that closes an expression within JSX, if no brace is open since that began. -/
def jsxHoleEnd : Rule := fun s text =>
  if s.region = .jsxHole s.openBraces.length ∧ text.head? = some '}' then
    some ⟨.jsxMark, 1, s.leave.seen (.token ['}'])⟩
  else none

/-- The `<` of a tag, which with `jsx` stands where an expression may begin. -/
def tagStart (jsx : Bool) : Rule := fun s text =>
  if jsx ∧ s.last.expressionMayFollow ∧ text.take (Lexeme.punctuator text) = ['<'] then
    some ⟨.jsxMark, 1, s.openTag⟩
  else none

/-- A punctuator. -/
def punctuator : Rule := fun s text =>
  Step.ofLength? .punctuator (Lexeme.punctuator text) text s.afterPunctuator

/-- The landmark that a name is: control keywords are told apart, except behind the point of a
    property access. -/
def nameLandmark (s : Context) (name : Text) : Landmark :=
  if name ∈ Word.controlKeywords ∧ s.last ≠ .token ['.'] ∧ s.last ≠ .token ['?', '.'] then
    .controlKeyword
  else .token name

/-- The context after a name, which is an operand unless it is a keyword that an expression may
    follow. -/
def afterName (s : Context) (name : Text) : Context :=
  (s.seen (nameLandmark s name)).withOperand (name ∉ Word.expressionKeywords)

/-- A name. -/
def name : Rule := fun s text =>
  Step.ofLength? (if text.head? = some '#' then .privateName else .identifier)
    (Lexeme.name text) text (afterName s)

/-- A string. -/
def string : Rule := fun s text =>
  Step.ofLength? .string (Lexeme.string text) text s.afterOperand

/-- A number. -/
def number : Rule := fun s text =>
  Step.ofLength? .number (Lexeme.number text) text s.afterOperand

/-- The first piece of a template literal, which may be all of it. -/
def template : Rule := fun s text =>
  (Lexeme.templatePiece? text).map fun piece =>
    match piece.ending with
    | .hole => ⟨.templateHead, piece.length, s.openTemplateHole⟩
    | _ => ⟨.template, piece.length, s.afterOperand (text.take piece.length)⟩

/-- The rules of script, in the order in which they are tried. -/
def script (jsx : Bool) : List Rule :=
  [regex, templateRest, jsxHoleEnd, tagStart jsx, punctuator, name, string, number, template]

end Rule
end SyntaxColor
