/-
  Literals as operands.

  An operator stands behind a literal.  The lexer only looks at how the token before is spelled, so
  this rests on the spelling of literals: closed, none of them ends like an operator, and none is
  spelled like a keyword.

  `expressionMayFollow_eq_false`: the spellings behind which no expression may begin.
  `Reached.leavesOperand`: what a literal, the end of an array or the end of an element leaves.
  `sign_behind_literal`: what a slash or a `<` begins behind one of them.
-/
import SyntaxColor.Proofs.Lexeme.Shape
import SyntaxColor.Proofs.Operand.Sign

namespace SyntaxColor

open Text

/-! ## Spellings -/

/-- No expression may begin behind a text that does not end like an operator, and does not begin
    like a keyword. -/
theorem expressionMayFollow_eq_false {text : Text} {c d : Char} (hmark : text ∉ openingMarks)
    (hhead : text.head? = some c) (hc : ∀ word ∈ Word.expressionKeywords, word.head? ≠ some c)
    (hlast : text.getLast? = some d) (hd : d ∉ openingCharacters) :
    text.expressionMayFollow = false := by
  have hword : text ∉ Word.expressionKeywords := fun hmem => hc text hmem hhead
  rw [Text.expressionMayFollow, hlast]
  simp only [hmark, hword, hd, Option.any_some, decide_false, Bool.false_or]

section Spellings

variable {text : Text}

theorem expressionMayFollow_of_number (h : Lexeme.number text ≠ 0) :
    Text.expressionMayFollow (text.take (Lexeme.number text)) = false := by
  have hpart : openingCharacters.all (fun c => !Lexeme.isNumberPart c) = true := by decide
  have hwords : ∀ word ∈ Word.expressionKeywords,
      word.head?.any (fun c => c.isDigit || c = '.') = false := by decide
  have hmade := Lexeme.madeOf_number text
  obtain ⟨c, rest, rfl, hc⟩ := Lexeme.head?_of_number h
  generalize Lexeme.number (c :: rest) = n at h hmade
  obtain ⟨n, rfl⟩ := Nat.exists_eq_succ_of_ne_zero h
  have hne : (c :: rest).take (n + 1) ≠ [] := by simp
  obtain ⟨d, hlast⟩ := Option.ne_none_iff_exists'.1 (mt List.getLast?_eq_none_iff.1 hne)
  refine expressionMayFollow_eq_false (c := c) ?_ rfl ?_ hlast ?_
  · -- Only the points begin as a number may, and no digit is behind the first of them.
    simp only [openingMarks, List.take_succ_cons, List.mem_cons, List.not_mem_nil, or_false,
      List.cons.injEq, reduceCtorEq, false_or]
    rintro (⟨rfl, -⟩ | ⟨rfl, -⟩ | ⟨rfl, -⟩ | ⟨rfl, hrest⟩)
    · simp at hc
    · simp at hc
    · simp at hc
    · have hdigit : rest.head? = some '.' := head?_of_take (n := n) (by rw [hrest]; rfl)
      simp [Lexeme.startsWithDigit, hdigit] at hc
  · intro word hmem hhead
    have hnone := hwords word hmem
    rw [hhead] at hnone
    obtain hc | ⟨rfl, -⟩ := hc
    · simp [hc] at hnone
    · simp at hnone
  · intro hmem
    have := List.all_eq_true.1 hpart d hmem
    rw [hmade d (List.mem_of_getLast? hlast)] at this
    cases this

theorem expressionMayFollow_of_string {quote : Char} (h : Lexeme.string text ≠ 0) {n : Nat}
    (hhead : (text.take n).head? = some quote) (hlast : (text.take n).getLast? = some quote) :
    Text.expressionMayFollow (text.take n) = false := by
  obtain ⟨c, hc, hquote⟩ := Lexeme.head?_of_string h
  have heq : text.head? = some quote := head?_of_take hhead
  obtain rfl : c = quote := Option.some.inj (hc.symm.trans heq)
  have hmarks : ∀ mark ∈ openingMarks, mark.head?.any Lexeme.isQuote = false := by decide
  simp only [Lexeme.isQuote, Bool.or_eq_true, decide_eq_true_eq] at hquote
  refine expressionMayFollow_eq_false (fun hmem => ?_) hhead ?_ hlast ?_
  · have := hmarks _ hmem
    rw [hhead] at this
    obtain rfl | rfl := hquote <;> cases this
  · obtain rfl | rfl := hquote <;> decide
  · obtain rfl | rfl := hquote <;> decide

/-- A piece of a template literal that ends in the closing backtick. -/
theorem expressionMayFollow_of_backtick {c : Char} (hc : c = '\x60' ∨ c = '}')
    (hhead : text.head? = some c) (hlast : text.getLast? = some '\x60') :
    text.expressionMayFollow = false := by
  have hmarks : ∀ mark ∈ openingMarks, mark.getLast? ≠ some '\x60' := by decide
  refine expressionMayFollow_eq_false (fun hmem => hmarks _ hmem hlast) hhead ?_ hlast (by decide)
  obtain rfl | rfl := hc <;> decide

/-- A regular expression that is closed: it ends in the slash or in a flag. -/
theorem expressionMayFollow_of_regex {body flags : Text} (h : Lexeme.regex text ≠ 0)
    (hbody : Lexeme.RegexBody false body)
    (htake : text.take (Lexeme.regex text) = '/' :: body ++ '/' :: flags) :
    Text.expressionMayFollow (text.take (Lexeme.regex text)) = false := by
  have hopening : openingCharacters.all (fun c => !Unicode.continuesName c) = true := by
    decide +kernel
  have hflags := Lexeme.continuesName_of_flags h hbody htake
  obtain ⟨d, hlast, hd⟩ : ∃ d, ('/' :: body ++ '/' :: flags).getLast? = some d ∧
      d ∉ openingCharacters := by
    rw [List.getLast?_append, List.getLast?_cons]
    cases hmore : flags.getLast? with
    | none => exact ⟨'/', rfl, by decide⟩
    | some d =>
      refine ⟨d, rfl, fun hmem => ?_⟩
      have := List.all_eq_true.1 hopening d hmem
      rw [hflags d (List.mem_of_getLast? hmore)] at this
      cases this
  rw [htake]
  refine expressionMayFollow_eq_false (fun hmem => ?_) rfl (by decide) hlast hd
  -- A single slash is the only mark that begins so, and there are two here.
  simp [openingMarks] at hmem

end Spellings

/-! ## What a literal leaves -/

/-- Whether the token completes an operand by itself: a number, a closed string, template literal or
    regular expression, the end of an array, or a `>` behind which there is script again, which ends
    an element.  `next` is the context after the token. -/
def Token.EndsOperand (token : Token) (next : Context) : Prop :=
  match token.kind with
  | .number => True
  | .string => ∃ quote, token.text.head? = some quote ∧ token.text.getLast? = some quote
  | .template | .templateTail => token.text.getLast? = some '\x60'
  | .regex => ∃ body flags, token.text = '/' :: body ++ '/' :: flags ∧ Lexeme.RegexBody false body
  | .punctuator => token.text = [']']
  | .jsxMark => token.text = ['>'] ∧ next.region.isJsx = false
  | _ => False

section Runs

variable {jsx : Bool} {s : Context} {text rest : Text} {step : Step} {seen trivia : List Entry}

/-- The `>` of a tag leaves script behind it only if it ends an element, which is an operand. -/
theorem closeTag_of_script (h : s.closeTag.region.isJsx = false) :
    s.closeTag.last = .element ∧ s.closeTag.operandBefore = true := by
  unfold Context.closeTag at h ⊢
  split
  · exact ⟨rfl, rfl⟩
  · next hopen =>
    rw [if_neg hopen] at h
    cases h

/-- Behind an operand there is script, and no expression may begin. -/
theorem Takes.leavesOperand (h : Takes jsx s text step) (hstacked : Stacked s.regions)
    (hoperand : (step.entry text).1.EndsOperand step.next) :
    step.next.region.isJsx = false ∧ step.next.last.expressionMayFollow = false := by
  cases h with
  | number hregion hlength => exact ⟨hregion, expressionMayFollow_of_number hlength⟩
  | string hregion hlength =>
    obtain ⟨quote, hhead, hlast⟩ := hoperand
    exact ⟨hregion, expressionMayFollow_of_string hlength hhead hlast⟩
  | template hregion =>
    exact ⟨hregion, expressionMayFollow_of_backtick (.inl rfl) rfl hoperand⟩
  | templateTail hregion =>
    exact ⟨hstacked.isJsx_leave (.inr ⟨_, hregion⟩),
      expressionMayFollow_of_backtick (.inr rfl) rfl hoperand⟩
  | regex hregion _ hlength =>
    obtain ⟨body, flags, htake, hbody⟩ := hoperand
    exact ⟨hregion, expressionMayFollow_of_regex hlength hbody htake⟩
  | punctuator hregion =>
    have hbracket : text.take (Lexeme.punctuator text) = [']'] := hoperand
    have hfollow : (Landmark.token [']']).expressionMayFollow = false := by decide
    rw [hbracket]
    exact ⟨hregion, hfollow⟩
  | closeTag =>
    refine ⟨hoperand.2, ?_⟩
    rw [(closeTag_of_script hoperand.2).1]
    rfl
  | jsxHoleEnd | tagStart | openTag | openHole | slash | childTag | childHole =>
    simp [Step.entry, Token.EndsOperand] at hoperand
  | otherMark _ hmark =>
    obtain ⟨htext, -⟩ := hoperand
    simp [Step.entry] at htext
    simp [htext] at hmark
  | templateMiddle | identifier | privateName | templateHead | jsxName | jsxValue | jsxContent
  | whitespace | lineBreak | blockComment | lineComment | stray | jsxStray => cases hoperand

/-- So wherever the lexer reads one. -/
theorem Reached.leavesOperand {entry : Entry} (h : Reached jsx text (seen ++ [entry]) s rest)
    (hoperand : entry.1.EndsOperand entry.2) :
    entry.2.region.isJsx = false ∧ entry.2.last.expressionMayFollow = false := by
  have hhashbang : seen = [] → entry.1.kind ≠ .hashbang := by
    rintro - hhashbang
    simp [Token.EndsOperand, hhashbang] at hoperand
  obtain ⟨s', rest', step, hreached, htakes, rfl, -⟩ := h.exists_takes_of_kind hhashbang
  exact htakes.leavesOperand hreached.stacked hoperand

end Runs

/-! ## Signs behind literals -/

/-- Behind a closed literal, the end of an array or the end of an element, and behind any white
    space, line breaks and comments there, a slash that begins no comment is a punctuator, never a
    regular expression; and a `<` is a punctuator, and opens no tag. -/
theorem sign_behind_literal {jsx : Bool} {text : Text} {seen trivia later : List Entry}
    {literal token : Token} {atLiteral atToken : Context}
    (htrace : text.trace jsx =
      seen ++ [(literal, atLiteral)] ++ trivia ++ [(token, atToken)] ++ later)
    (hliteral : literal.EndsOperand atLiteral)
    (htrivia : ∀ entry ∈ trivia, entry.1.kind.isTrivia = true)
    (hkind : token.kind.isTrivia = false) :
    (token.text.head? = some '/' →
      token.kind = .punctuator ∧ token.text ∈ [['/'], ['/', '=']]) ∧
    (token.text.head? = some '<' → token.kind = .punctuator) := by
  obtain ⟨_, hreached⟩ := reached_of_trace_eq htrace
  obtain ⟨_, _, hbefore⟩ := hreached.of_append
  obtain ⟨_, _, hentry⟩ := hbefore.of_append
  obtain ⟨hscript, hfollow⟩ := hentry.leavesOperand hliteral
  constructor
  · intro hhead
    have hpunctuator := hreached.slash_behind hscript htrivia hkind hhead
    rw [hfollow] at hpunctuator
    have hmem : token ∈ text.tokens jsx := by simp [Text.tokens, htrace]
    exact ⟨hpunctuator, mem_divisions_of_mem_tokens hmem hpunctuator hhead⟩
  · intro hhead
    have hpunctuator := hreached.less_behind hscript htrivia hkind hhead
    rw [hfollow] at hpunctuator
    simpa using hpunctuator

/-- The end of an element, and a comment over a line break: the slash behind them divides. -/
theorem sign_behind_literal_element :
    ∃ token ∈ Text.tokens true "x=<a/> /*\n*/ /2".toList,
      token.text.head? = some '/' ∧ token.kind = .punctuator := by
  let trace := Text.trace true "x=<a/> /*\n*/ /2".toList
  have htrace : trace = trace.take 5 ++ [(⟨.jsxMark, ['>']⟩, contextAfter {} (trace.take 6))] ++
      (trace.take 9).drop 6 ++ [(⟨.punctuator, ['/']⟩, contextAfter {} (trace.take 10))] ++
      trace.drop 10 := by
    decide +kernel
  have hliteral : Token.EndsOperand ⟨.jsxMark, ['>']⟩ (contextAfter {} (trace.take 6)) :=
    ⟨rfl, by decide +kernel⟩
  obtain ⟨hslash, -⟩ := sign_behind_literal htrace hliteral (by decide +kernel) rfl
  exact ⟨⟨.punctuator, ['/']⟩, by decide +kernel, rfl, (hslash rfl).1⟩

end SyntaxColor
