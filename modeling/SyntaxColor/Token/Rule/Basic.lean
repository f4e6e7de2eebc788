/-
  Rules, each of which reads one kind of token, and the rules for what may stand anywhere:
  white space, line breaks and comments.

  `Step.ofLength?_eq_some_iff`, `Step.ofLength?_eq_none_iff`: a rule that scans for a lexeme reads
  exactly that lexeme, and nothing if there is none.
-/
import SyntaxColor.Lexeme.Trivia
import SyntaxColor.Token
import SyntaxColor.Token.Context

namespace SyntaxColor

/-- A token that was read: its kind, its length, and the context after it. -/
structure Step where
  kind : Kind
  length : Nat
  next : Context
  deriving DecidableEq

/-- A rule reads a token at the start of a text, if it finds one of its kind there. -/
abbrev Rule := Context → Text → Option Step

namespace Step

/-- The token of `length` characters at the start of `text`, none if that is 0; `next` gives the
    context after a token from its text. -/
def ofLength? (kind : Kind) (length : Nat) (text : Text) (next : Text → Context) : Option Step :=
  if length = 0 then none else some ⟨kind, length, next (text.take length)⟩

theorem ofLength?_eq_some_iff {kind : Kind} {length : Nat} {text : Text}
    {next : Text → Context} {step : Step} :
    ofLength? kind length text next = some step ↔
      length ≠ 0 ∧ step = ⟨kind, length, next (text.take length)⟩ := by
  unfold ofLength?
  split <;> simp_all [eq_comm]

theorem ofLength?_eq_none_iff {kind : Kind} {length : Nat} {text : Text}
    {next : Text → Context} : ofLength? kind length text next = none ↔ length = 0 := by
  unfold ofLength?
  split <;> simp_all

/-- A single character that no rule reads. -/
def stray (s : Context) (text : Text) : Step :=
  ⟨if s.region.isJsx then .jsxStray else .stray, 1, s.afterOperator (text.take 1)⟩

end Step

namespace Rule

/-- White space leaves the context as it is. -/
def whitespace : Rule := fun s text =>
  Step.ofLength? .whitespace (Lexeme.whitespace text) text fun _ => s

/-- A line break. -/
def lineBreak : Rule := fun s text =>
  Step.ofLength? .lineBreak (Lexeme.lineBreak text) text fun _ => s.breakLine

/-- A comment that spans lines counts as a line break. -/
def blockComment : Rule := fun s text =>
  Step.ofLength? .blockComment (Lexeme.blockComment text) text fun comment =>
    if comment.any Text.isLineEnd then s.breakLine else s

/-- A line comment leaves no operand right before what follows it. -/
def lineComment : Rule := fun s text =>
  Step.ofLength? .lineComment (Lexeme.lineComment text) text fun _ => s.withOperand false

/-- The rules that hold in every region, in the order in which they are tried. -/
def trivia : List Rule := [whitespace, lineBreak, blockComment, lineComment]

end Rule
end SyntaxColor
