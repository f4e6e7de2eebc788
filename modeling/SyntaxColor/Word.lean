/-
  The words of the language that are not free for use as names.

  These sets only look at the word itself; whether it acts as a keyword where it stands is not
  asked here.
-/
import SyntaxColor.Text

namespace SyntaxColor.Word

/-- The keywords, and the literals that are spelled like names. -/
def keywords : List Text :=
  ["break", "case", "catch", "continue", "debugger", "default", "do", "else", "finally", "for",
  "function", "if", "return", "switch", "throw", "try", "var", "const", "while", "with", "new",
  "this", "super", "class", "extends", "export", "import", "null", "true", "false", "in",
  "instanceof", "typeof", "void", "delete"].map String.toList

/-- The words that strict code reserves on top of those reserved everywhere. -/
def strictWords : List Text :=
  ["implements", "interface", "let", "package", "private", "protected", "public", "static",
  "yield"].map String.toList

/-- The words that strict code lets nobody bind, although they may be used. -/
def unbindableWords : List Text := ["eval", "arguments"].map String.toList

/-- The words that are keywords in some positions only. -/
def positionalKeywords : List Text :=
  ["as", "async", "from", "get", "of", "set"].map String.toList

/-- The words after which an expression may follow. -/
def expressionKeywords : List Text :=
  ["await", "case", "default", "delete", "do", "else", "instanceof", "new", "return", "throw",
  "typeof", "void", "yield"].map String.toList

/-- The statements that a line break ends. -/
def jumpKeywords : List Text := ["return", "throw", "yield"].map String.toList

/-- The words whose statements have a head in parentheses, with a statement after it. -/
def controlKeywords : List Text := ["for", "if", "while", "with"].map String.toList

/-- Whether the word is a keyword everywhere. -/
def isKeyword (word : Text) : Bool := word ∈ keywords

/-- Whether the word is reserved everywhere; `await` is, in modules only. -/
def isReserved (word : Text) (inModule : Bool) : Bool :=
  (inModule && word = "await".toList) || word = "enum".toList

/-- Whether the word is reserved in strict code. -/
def isReservedStrict (word : Text) (inModule : Bool) : Bool :=
  isReserved word inModule || word ∈ strictWords

/-- Whether strict code lets nobody bind the word, although it may be used. -/
def isUnbindable (word : Text) : Bool := word ∈ unbindableWords

/-- Whether strict code lets nobody bind the word, for one reason or the other. -/
def isForbiddenBinding (word : Text) (inModule : Bool) : Bool :=
  isReservedStrict word inModule || isUnbindable word

end SyntaxColor.Word
