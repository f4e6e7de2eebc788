/-
  Tokens on their own.  A token is read where it stands, by rules that look at the context before
  it and at the text behind it.  Cut out of the text, it is still a lexeme of its kind, from its
  first character to its last.

  `Token.IsLexeme`: what the scanner of its kind makes of the token alone.
  `Takes.isLexeme`: every step reads such a token; `tokens_isLexeme`: so every token of every text
  is one, and only the first may name an interpreter.
-/
import SyntaxColor.Proofs.Lexeme.Settled
import SyntaxColor.Proofs.Token.Run

namespace SyntaxColor

/-! ## Lexemes alone -/

namespace Lexeme

/-- The text is one lexeme that the scanner finds, and nothing behind it. -/
def IsWhole (scan : Text → Nat) (text : Text) : Prop := text ≠ [] ∧ scan text = text.length

/-- The text is a piece of a template literal that begins and ends in this way, and nothing behind
    it. -/
def IsPiece (opening : Char) (ending : PieceEnd) (text : Text) : Prop :=
  text.head? = some opening ∧ templatePiece? text = some ⟨text.length, ending⟩

/-- The marks in tags, each of them one character. -/
def jsxMarks : List Text := [['<'], ['>'], ['.'], [':'], ['='], ['{'], ['}'], ['/']]

section Whole

variable {scan : Text → Nat} {text : Text}

theorem isWhole_take (hne : scan text ≠ 0) (hle : scan text ≤ text.length)
    (htake : scan (text.take (scan text)) = scan text) : IsWhole scan (text.take (scan text)) := by
  have hlength := List.length_take_of_le hle
  refine ⟨fun hnil => ?_, by rw [htake, hlength]⟩
  rw [hnil] at hlength
  exact hne hlength.symm

theorem isPiece_take {opening : Char} {ending : PieceEnd} {rest : Text}
    (hopening : opening = '\x60' ∨ opening = '}') (hending : (templateBody rest).ending = ending) :
    IsPiece opening ending ((opening :: rest).take ((templateBody rest).length + 1)) := by
  subst hending
  have hlength := List.length_take_of_le (templateBody_le rest)
  refine ⟨rfl, ?_⟩
  simp [templatePiece?, hopening, templateBody_take, TemplatePiece.after, hlength]

end Whole

end Lexeme

/-! ## Tokens alone -/

/-- The text of the token is, on its own and as a whole, a lexeme of the kind of the token. -/
def Token.IsLexeme (token : Token) : Prop :=
  match token.kind with
  | .identifier => Lexeme.IsWhole Lexeme.name token.text ∧ token.text.head? ≠ some '#'
  | .privateName => Lexeme.IsWhole Lexeme.name token.text ∧ token.text.head? = some '#'
  | .number => Lexeme.IsWhole Lexeme.number token.text
  | .string => Lexeme.IsWhole Lexeme.string token.text
  | .template =>
    Lexeme.IsPiece '\x60' .closed token.text ∨ Lexeme.IsPiece '\x60' .cutOff token.text
  | .templateHead => Lexeme.IsPiece '\x60' .hole token.text
  | .templateMiddle => Lexeme.IsPiece '}' .hole token.text
  | .templateTail => Lexeme.IsPiece '}' .closed token.text ∨ Lexeme.IsPiece '}' .cutOff token.text
  | .regex => Lexeme.IsWhole Lexeme.regex token.text
  | .punctuator => Lexeme.IsWhole Lexeme.punctuator token.text
  | .blockComment => Lexeme.IsWhole Lexeme.blockComment token.text
  | .lineComment => Lexeme.IsWhole Lexeme.lineComment token.text
  | .hashbang => Lexeme.IsWhole Lexeme.hashbang token.text
  | .whitespace => Lexeme.IsWhole Lexeme.whitespace token.text
  | .lineBreak => Lexeme.IsWhole Lexeme.lineBreak token.text
  | .jsxValue => Lexeme.IsWhole Lexeme.jsxValue token.text
  | .jsxContent => Lexeme.IsWhole Lexeme.jsxContent token.text
  | .jsxName => Lexeme.IsWhole Lexeme.jsxName token.text
  | .jsxMark => token.text ∈ Lexeme.jsxMarks
  | .stray | .jsxStray => token.text.length = 1

section Takes

open Lexeme

variable {jsx : Bool} {s : Context} {text : Text} {step : Step}

/-- A piece that does not open a substitution is closed, or cut off by the end of the text. -/
theorem isPiece_of_ending_ne {opening : Char} {ending : PieceEnd} {text : Text}
    (h : IsPiece opening ending text) (hending : ending ≠ .hole) :
    IsPiece opening .closed text ∨ IsPiece opening .cutOff text := by
  cases ending with
  | closed => exact .inl h
  | hole => exact absurd rfl hending
  | cutOff => exact .inr h

/-- Every step reads a lexeme. -/
theorem Takes.isLexeme (h : Takes jsx s text step) : (step.entry text).1.IsLexeme := by
  cases h with
  | regex _ _ hlength => exact isWhole_take hlength (regex_le text) (regex_take text)
  | templateMiddle _ hending => exact isPiece_take (.inr rfl) hending
  | templateTail _ hending => exact isPiece_of_ending_ne (isPiece_take (.inr rfl) rfl) hending
  | templateHead _ hending => exact isPiece_take (.inl rfl) hending
  | template _ hending => exact isPiece_of_ending_ne (isPiece_take (.inl rfl) rfl) hending
  | jsxHoleEnd | tagStart | openTag | closeTag | openHole | slash | childTag | childHole =>
    show _ ∈ jsxMarks
    simp [Step.entry, jsxMarks]
  | otherMark _ hmark =>
    show _ ∈ jsxMarks
    simp only [List.mem_cons, List.not_mem_nil, or_false] at hmark
    obtain rfl | rfl | rfl | rfl := hmark <;> simp [Step.entry, jsxMarks]
  | punctuator _ _ _ _ hlength =>
    exact isWhole_take hlength (punctuator_le text) (punctuator_take text)
  | identifier _ hlength hhead =>
    exact ⟨isWhole_take hlength (name_le text) (name_take text), head?_take_ne hhead _⟩
  | privateName _ hlength hhead =>
    refine ⟨isWhole_take hlength (name_le text) (name_take text), ?_⟩
    rw [Step.entry, List.head?_take, if_neg hlength, hhead]
  | string _ hlength => exact isWhole_take hlength (string_le text) (string_take text)
  | number _ hlength => exact isWhole_take hlength (number_le text) (number_take text)
  | jsxName _ hlength => exact isWhole_take hlength (jsxName_le text) (jsxName_take text)
  | jsxValue _ hlength => exact isWhole_take hlength (jsxValue_le text) (jsxValue_take text)
  | jsxContent _ hlength => exact isWhole_take hlength (jsxContent_le text) (jsxContent_take text)
  | whitespace hlength => exact isWhole_take hlength (whitespace_le text) (whitespace_take text)
  | lineBreak hlength => exact isWhole_take hlength (lineBreak_le text) (lineBreak_take text)
  | blockComment hlength =>
    exact isWhole_take hlength (blockComment_le text) (blockComment_take text)
  | lineComment hlength => exact isWhole_take hlength (lineComment_le text) (lineComment_take text)
  | stray | jsxStray => rfl

theorem Takes.kind_ne_hashbang (h : Takes jsx s text step) : step.kind ≠ .hashbang := by
  cases h <;> simp

end Takes

/-! ## Every text -/

/-- Only the first token may name an interpreter. -/
theorem Reached.kind_ne_hashbang {jsx : Bool} {text rest : Text} {seen : List Entry} {s : Context}
    (h : Reached jsx text seen s rest) : ∀ entry ∈ seen.tail, entry.1.kind ≠ .hashbang := by
  induction h with
  | start => simp
  | hashbang => simp
  | @step seen s rest _ hrest _ ih =>
    cases seen with
    | nil => simp
    | cons first seen =>
      intro entry hentry
      obtain hentry | hentry := List.mem_append.1 hentry
      · exact ih entry hentry
      · rw [List.mem_singleton.1 hentry]
        exact (takes_step jsx s hrest).kind_ne_hashbang

theorem isLexeme_of_mem_tokens {jsx : Bool} {text : Text} {token : Token}
    (h : token ∈ text.tokens jsx) : token.IsLexeme := by
  refine forall_tokens (fun hhashbang => ?_) (fun s text htext => ?_) token h
  · exact Lexeme.isWhole_take hhashbang (Lexeme.hashbang_le text) (Lexeme.hashbang_take text)
  · exact (takes_step jsx s htext).isLexeme

/-- Every token is of its kind on its own: the scanner of that kind, applied to the token alone,
    finds all of it.  Only the first token is one that names an interpreter. -/
theorem tokens_isLexeme (jsx : Bool) (text : Text) :
    (∀ token ∈ text.tokens jsx, token.IsLexeme) ∧
      ∀ token ∈ (text.tokens jsx).tail, token.kind ≠ .hashbang := by
  refine ⟨fun _ => isLexeme_of_mem_tokens, ?_⟩
  obtain ⟨s, hs⟩ := reached_trace jsx text
  intro token htoken
  rw [Text.tokens, ← List.map_tail] at htoken
  obtain ⟨entry, hentry, rfl⟩ := List.mem_map.1 htoken
  exact hs.kind_ne_hashbang entry hentry

end SyntaxColor
