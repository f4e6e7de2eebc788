/-
  Categories: what a style is chosen by.
-/
import SyntaxColor.Token
import SyntaxColor.Unicode.Lowercase
import SyntaxColor.Word

namespace SyntaxColor

/-- What a style is chosen by. -/
inductive Category where
  | keyword
  /-- Identifiers that begin with an upper case letter, classes most often. -/
  | capitalized
  | jsxIdentifier
  | punctuator
  | number
  | string
  | regex
  | comment
  | invalid
  /-- What is never styled. -/
  | uncolored
  deriving DecidableEq

namespace Category

/-- The categories that can have a style. -/
def styled : List Category :=
  [.keyword, .capitalized, .jsxIdentifier, .punctuator, .number, .string, .regex, .comment,
  .invalid]

/-- The name by which a category is shown. -/
def name : Category → String
  | .keyword => "keyword"
  | .capitalized => "capitalized"
  | .jsxIdentifier => "jsxIdentifier"
  | .punctuator => "punctuator"
  | .number => "number"
  | .string => "string"
  | .regex => "regex"
  | .comment => "comment"
  | .invalid => "invalid"
  | .uncolored => "uncolored"

/-- The category of an identifier.  Words that are keywords in some positions only count as
    keywords in all. -/
def ofIdentifier (word : Text) : Category :=
  if Word.isKeyword word || Word.isReservedStrict word true || word ∈ Word.positionalKeywords then
    .keyword
  else if word.head?.any Unicode.changesInLowercase then .capitalized
  else .uncolored

/-- Brackets are not styled, which keeps the picture calm. -/
def ofPunctuator (mark : Text) : Category :=
  if mark ∈ [['('], [')'], ['['], [']'], ['{'], ['}']] then .uncolored else .punctuator

/-- The sign of a decorator begins no token of its own, and counts as a punctuator. -/
def ofStray (text : Text) : Category :=
  if text = ['@'] then .punctuator else .invalid

end Category

/-- The category of a token. -/
def Token.category (token : Token) : Category :=
  match token.kind with
  | .identifier => .ofIdentifier token.text
  | .punctuator => .ofPunctuator token.text
  | .stray => .ofStray token.text
  | .number => .number
  | .string | .jsxValue | .template => .string
  | .regex => .regex
  | .jsxMark => .punctuator
  | .blockComment | .lineComment => .comment
  | .jsxStray => .invalid
  | .jsxName => .jsxIdentifier
  | .privateName | .templateHead | .templateMiddle | .templateTail | .hashbang | .whitespace
  | .lineBreak | .jsxContent => .uncolored

end SyntaxColor
