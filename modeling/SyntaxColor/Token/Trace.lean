/-
  The tokens of a text.

  At each place the rules of the innermost region are tried in order, then those for white space
  and comments; a character that none of them reads is a token of its own.
  `traceFrom_eq_drop`: what follows a token is read from the text behind it alone.
-/
import SyntaxColor.Token.Rule.Jsx

namespace SyntaxColor

/-- The rules of a region, in the order in which they are tried. -/
def Region.rules (jsx : Bool) : Region → List Rule
  | .script | .controlHead _ | .templateHole _ | .jsxHole _ => Rule.script jsx ++ Rule.trivia
  | .jsxTag | .jsxClosingTag => Rule.tag ++ Rule.trivia
  | .jsxChildren => Rule.children ++ Rule.trivia

/-- The token at the start of `text`: what the first rule reads that reads anything. -/
def Context.step (jsx : Bool) (s : Context) (text : Text) : Step :=
  ((s.region.rules jsx).findSome? fun rule => rule s text).getD (Step.stray s text)

namespace Text

/-- The tokens of a text, each with the context after it, when the first `pending` characters
    belong to a token that was already read. -/
def traceFrom (jsx : Bool) (s : Context) (pending : Nat) : Text → List (Token × Context)
  | [] => []
  | c :: rest =>
    match pending with
    | pending + 1 => traceFrom jsx s pending rest
    | 0 =>
      let step := s.step jsx (c :: rest)
      (⟨step.kind, (c :: rest).take step.length⟩, step.next) ::
        traceFrom jsx step.next (step.length - 1) rest

/-- The tokens of a text, each with the context after it.  With `jsx` an expression may be a JSX
    element.  Only at its very start may the text name an interpreter. -/
def trace (jsx : Bool) (text : Text) : List (Token × Context) :=
  match Lexeme.hashbang text with
  | 0 => traceFrom jsx {} 0 text
  | length => (⟨.hashbang, text.take length⟩, {}) :: traceFrom jsx {} length text

/-- The tokens of a text. -/
def tokens (jsx : Bool) (text : Text) : List Token := (text.trace jsx).map Prod.fst

theorem traceFrom_eq_drop (jsx : Bool) (s : Context) (n : Nat) (text : Text) :
    traceFrom jsx s n text = traceFrom jsx s 0 (text.drop n) := by
  induction n generalizing text with
  | zero => rfl
  | succ n ih =>
    cases text with
    | nil => rfl
    | cons c rest => rw [traceFrom, ih rest, List.drop_succ_cons]

end Text
end SyntaxColor
