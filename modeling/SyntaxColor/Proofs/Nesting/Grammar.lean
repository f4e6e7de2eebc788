/-
  A grammar of nested expressions: brackets, objects, template literals with substitutions, and JSX
  elements, inside of one another to any depth.

  Each expression has a `source`, the text that it is written as, and `tokens`, what a reader who
  knows the grammar takes the text apart into.  Neither mentions the lexer.
-/
import SyntaxColor.Token
import SyntaxColor.Word

namespace SyntaxColor.Nesting

/-! ## Texts without structure -/

/-- A text made of ASCII letters. -/
structure Letters where
  text : Text
  text_ne_nil : text ≠ []
  isAlpha : ∀ c ∈ text, c.isAlpha = true

/-- A name that is none of the words after which the lexer takes note of what follows. -/
structure Name extends Letters where
  not_mem_expressionKeywords : text ∉ Word.expressionKeywords
  not_mem_controlKeywords : text ∉ Word.controlKeywords

/-- A decimal integer without a leading zero. -/
structure Numeral where
  first : Char
  digits : Text
  first_isDigit : first.isDigit = true
  first_ne_zero : first ≠ '0'
  isDigit : ∀ c ∈ digits, c.isDigit = true

/-- The digits of a decimal integer. -/
def Numeral.text (numeral : Numeral) : Text := numeral.first :: numeral.digits

/-- A text in which some characters do not occur. -/
def TextWithout (excluded : List Char) : Type := { text : Text // ∀ c ∈ text, c ∉ excluded }

/-- What a string in single quotes holds. -/
abbrev StringContent := TextWithout ['\'', '\\', '\r', '\n']

/-- What a template literal holds between its substitutions. -/
abbrev Chunk := TextWithout ['\x60', '\\', '$']

/-- What the value of an attribute holds in double quotes. -/
abbrev ValueContent := TextWithout ['"']

/-- What stands between the tags and expressions in an element, which may be nothing. -/
abbrev Prose := TextWithout ['<', '>', '{', '}']

/-! ## Expressions -/

mutual

/-- An expression. -/
inductive Expr where
  | name (name : Name)
  | number (numeral : Numeral)
  | string (content : StringContent)
  | paren (inner : Expr)
  | bracket (inner : Expr)
  /-- An object with one property. -/
  | object (key : Letters) (value : Expr)
  | template (chunk : Chunk) (holes : Holes)
  | element (element : Element)

/-- The substitutions of a template literal, each with the text behind it. -/
inductive Holes where
  | nil
  | cons (inner : Expr) (chunk : Chunk) (more : Holes)

/-- An element, with or without a closing tag. -/
inductive Element where
  | single (name : Letters) (attributes : Attributes)
  | paired (name : Letters) (attributes : Attributes) (children : Children)

/-- The attributes of a tag, each with its value in quotes or in braces. -/
inductive Attributes where
  | nil
  | quoted (name : Letters) (value : ValueContent) (more : Attributes)
  | braced (name : Letters) (inner : Expr) (more : Attributes)

/-- What stands between the tags of an element: elements and expressions in braces, with a text
    before each and at the end, so that no two texts are next to each other. -/
inductive Children where
  | last (prose : Prose)
  | element (prose : Prose) (element : Element) (more : Children)
  | braced (prose : Prose) (inner : Expr) (more : Children)

end

/-! ## How they are written -/

mutual

/-- The text of an expression. -/
def Expr.source : Expr → Text
  | .name name => name.text
  | .number numeral => numeral.text
  | .string content => '\'' :: content.1 ++ ['\'']
  | .paren inner => '(' :: inner.source ++ [')']
  | .bracket inner => '[' :: inner.source ++ [']']
  | .object key value => '{' :: key.text ++ ':' :: value.source ++ ['}']
  | .template chunk holes => '\x60' :: chunk.1 ++ holes.source
  | .element element => '<' :: element.source

/-- The text of a template literal behind its first chunk. -/
def Holes.source : Holes → Text
  | .nil => ['\x60']
  | .cons inner chunk more => '$' :: '{' :: inner.source ++ '}' :: chunk.1 ++ more.source

/-- The text of an element behind its first character. -/
def Element.source : Element → Text
  | .single name attributes => name.text ++ attributes.source ++ ['/', '>']
  | .paired name attributes children =>
    name.text ++ attributes.source ++ '>' :: children.source ++ '<' :: '/' :: name.text ++ ['>']

/-- The text of the attributes of a tag. -/
def Attributes.source : Attributes → Text
  | .nil => []
  | .quoted name value more => ' ' :: name.text ++ '=' :: '"' :: value.1 ++ '"' :: more.source
  | .braced name inner more => ' ' :: name.text ++ '=' :: '{' :: inner.source ++ '}' :: more.source

/-- The text between the tags of an element. -/
def Children.source : Children → Text
  | .last prose => prose.1
  | .element prose element more => prose.1 ++ '<' :: element.source ++ more.source
  | .braced prose inner more => prose.1 ++ '{' :: inner.source ++ '}' :: more.source

end

/-! ## What they are made of -/

/-- A punctuator of one character. -/
def punctuator (c : Char) : Token := ⟨.punctuator, [c]⟩

/-- A mark of JSX. -/
def jsxMark (c : Char) : Token := ⟨.jsxMark, [c]⟩

/-- The token of a text between tags; there is none if the text is empty. -/
def Prose.tokens (prose : Prose) : List Token :=
  if prose.1 = [] then [] else [⟨.jsxContent, prose.1⟩]

mutual

/-- The tokens of an expression. -/
def Expr.tokens : Expr → List Token
  | .name name => [⟨.identifier, name.text⟩]
  | .number numeral => [⟨.number, numeral.text⟩]
  | .string content => [⟨.string, '\'' :: content.1 ++ ['\'']⟩]
  | .paren inner => punctuator '(' :: inner.tokens ++ [punctuator ')']
  | .bracket inner => punctuator '[' :: inner.tokens ++ [punctuator ']']
  | .object key value =>
    punctuator '{' :: ⟨.identifier, key.text⟩ :: punctuator ':' :: value.tokens ++ [punctuator '}']
  | .template chunk holes => holes.tokens .template .templateHead ('\x60' :: chunk.1)
  | .element element => jsxMark '<' :: element.tokens

/-- The tokens of a template literal from one of its pieces on, which begins with `piece`: it is of
    the kind `closing` if it closes the literal, and of the kind `opening` if a substitution
    follows. -/
def Holes.tokens (closing opening : Kind) (piece : Text) : Holes → List Token
  | .nil => [⟨closing, piece ++ ['\x60']⟩]
  | .cons inner chunk more =>
    ⟨opening, piece ++ ['$', '{']⟩ :: inner.tokens ++
      more.tokens .templateTail .templateMiddle ('}' :: chunk.1)

/-- The tokens of an element behind its first one. -/
def Element.tokens : Element → List Token
  | .single name attributes =>
    ⟨.jsxName, name.text⟩ :: attributes.tokens ++ [jsxMark '/', jsxMark '>']
  | .paired name attributes children =>
    ⟨.jsxName, name.text⟩ :: attributes.tokens ++ jsxMark '>' :: children.tokens ++
      [jsxMark '<', jsxMark '/', ⟨.jsxName, name.text⟩, jsxMark '>']

/-- The tokens of the attributes of a tag. -/
def Attributes.tokens : Attributes → List Token
  | .nil => []
  | .quoted name value more =>
    ⟨.whitespace, [' ']⟩ :: ⟨.jsxName, name.text⟩ :: jsxMark '=' ::
      ⟨.jsxValue, '"' :: value.1 ++ ['"']⟩ :: more.tokens
  | .braced name inner more =>
    ⟨.whitespace, [' ']⟩ :: ⟨.jsxName, name.text⟩ :: jsxMark '=' :: jsxMark '{' ::
      inner.tokens ++ jsxMark '}' :: more.tokens

/-- The tokens between the tags of an element. -/
def Children.tokens : Children → List Token
  | .last prose => prose.tokens
  | .element prose element more =>
    prose.tokens ++ jsxMark '<' :: element.tokens ++ more.tokens
  | .braced prose inner more =>
    prose.tokens ++ jsxMark '{' :: inner.tokens ++ jsxMark '}' :: more.tokens

end

/-- A number in parentheses in a substitution: the literal is cut at both ends of that. -/
example :
    (Expr.template ⟨['a'], by simp⟩ (.cons
      (.paren (.number ⟨'1', [], rfl, by simp, by simp⟩)) ⟨[], by simp⟩ .nil)).tokens =
      [⟨.templateHead, ['\x60', 'a', '$', '{']⟩, punctuator '(', ⟨.number, ['1']⟩, punctuator ')',
        ⟨.templateTail, ['}', '\x60']⟩] := by
  decide

end SyntaxColor.Nesting
