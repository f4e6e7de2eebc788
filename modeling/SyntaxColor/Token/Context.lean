/-
  What has to be remembered of the text before a token.

  A slash may begin a regular expression or divide, a `<` may open a tag or compare, and a brace
  may close a block, an object or a substitution.  What decides these is the nesting of regions
  and brackets around the token, and the last landmark before it.
-/
import SyntaxColor.Word

namespace SyntaxColor

/-! ## Regions -/

/-- What kind of text a token stands in. -/
inductive Region where
  | script
  /-- In the parentheses of a control statement's head, at this depth of parentheses. -/
  | controlHead (depth : Int)
  /-- In a substitution of a template literal, at this depth of braces. -/
  | templateHole (depth : Nat)
  /-- In an expression in braces within JSX, at this depth of braces. -/
  | jsxHole (depth : Nat)
  /-- In an opening or self-closing tag. -/
  | jsxTag
  | jsxClosingTag
  /-- Between the tags of an element. -/
  | jsxChildren
  deriving DecidableEq

/-- Whether what stands in a region is JSX rather than script. -/
def Region.isJsx : Region → Bool
  | .jsxTag | .jsxClosingTag | .jsxChildren => true
  | _ => false

/-! ## Landmarks -/

/-- What is remembered of a token that is neither white space nor comment. -/
inductive Landmark where
  /-- Its text, the empty one at the beginning of the source. -/
  | token (text : Text)
  /-- A keyword whose statement has a head in parentheses. -/
  | controlKeyword
  /-- The parenthesis that closes such a head. -/
  | controlHeadEnd
  /-- The opening of a substitution in a template literal. -/
  | templateHole
  /-- The brace that opens an expression within JSX. -/
  | jsxHole
  /-- The brace that closes an object. -/
  | objectEnd
  /-- A `++` or `--` behind its operand. -/
  | postfixUpdate
  /-- A `++` or `--` before its operand. -/
  | prefixUpdate
  /-- A keyword whose statement a line break has ended. -/
  | jumpLineBreak
  /-- The end of a JSX element. -/
  | element
  deriving DecidableEq

/-- The tokens after which an expression may begin although their last character does not tell. -/
def openingMarks : List Text := [[], ['/'], ['+'], ['-'], ['.', '.', '.']]

/-- The last characters of punctuators after which an expression may begin. -/
def openingCharacters : List Char :=
  ['{', '}', '(', '[', ',', ';', '<', '>', '=', '*', '%', '&', '|', '^', '!', '~', '?', ':']

/-- Whether an expression may begin after a token with this text. -/
def Text.expressionMayFollow (text : Text) : Bool :=
  text ∈ openingMarks || text.getLast?.any (· ∈ openingCharacters) ||
    text ∈ Word.expressionKeywords

/-- Whether a brace after a token with this text opens a block. -/
def Text.blockMayFollow (text : Text) : Bool :=
  text ∈ [[], ['=', '>'], [';'], [']'], [')'], ['{'], ['}'], "else".toList]

/-- Whether an expression may begin after this landmark. -/
def Landmark.expressionMayFollow : Landmark → Bool
  | .token text => text.expressionMayFollow
  | .templateHole | .jsxHole | .jumpLineBreak | .controlHeadEnd | .prefixUpdate => true
  | .controlKeyword | .objectEnd | .postfixUpdate | .element => false

/-- Whether a brace after this landmark opens a block. -/
def Landmark.blockMayFollow : Landmark → Bool
  | .token text => text.blockMayFollow
  | .jumpLineBreak | .controlHeadEnd => true
  | _ => false

/-! ## Contexts -/

/-- What is remembered of the text before a token. -/
structure Context where
  /-- The regions around the token, the innermost first. -/
  regions : List Region := [.script]
  /-- For each open brace of the script, the innermost first, whether it opened an object. -/
  openBraces : List Bool := []
  /-- How many parentheses are open, less those that were closed and never opened. -/
  parenDepth : Int := 0
  /-- Whether an operand stands right before, so that a `++` here would be behind it. -/
  operandBefore : Bool := false
  /-- The last landmark. -/
  last : Landmark := .token []
  deriving DecidableEq

namespace Context

/-- The innermost region. -/
def region (s : Context) : Region := s.regions.headD .script

/-- The context inside a new innermost region. -/
def enter (s : Context) (region : Region) : Context := { s with regions := region :: s.regions }

/-- The context outside the innermost region; the outermost region is never left. -/
def leave (s : Context) : Context :=
  match s.regions with
  | _ :: region :: outer => { s with regions := region :: outer }
  | _ => s

/-- The context after this landmark. -/
def seen (s : Context) (last : Landmark) : Context := { s with last := last }

/-- The context in which it is known whether an operand stands right before. -/
def withOperand (s : Context) (operandBefore : Bool) : Context :=
  { s with operandBefore := operandBefore }

/-- The context after a literal or another operand with this text. -/
def afterOperand (s : Context) (text : Text) : Context := (s.seen (.token text)).withOperand true

/-- The context after an operator with this text. -/
def afterOperator (s : Context) (text : Text) : Context :=
  (s.seen (.token text)).withOperand false

/-- The context after a line break, which no operand stands right before, and which ends the
    statement of a jump keyword. -/
def breakLine (s : Context) : Context :=
  match s.last with
  | .token text =>
    if text ∈ Word.jumpKeywords then (s.seen .jumpLineBreak).withOperand false
    else s.withOperand false
  | _ => s.withOperand false

end Context
end SyntaxColor
