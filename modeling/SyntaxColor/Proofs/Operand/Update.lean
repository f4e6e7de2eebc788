/-
  Updates: a `++` or `--` stands behind its operand if an operand stands right before it on the
  same line, and before its operand otherwise.  So a slash behind it divides or begins a regular
  expression.

  `Token.IsOperand`: the tokens that are operands.
  `Reached.isOperand`: each of them leaves script behind it, and is remembered as an operand.
  `Reached.operandBefore_behind`: over trivia, it is until a line ends.
  `slash_behind_update`: what a slash begins behind a `++` or `--`.
-/
import Mathlib.Data.List.Induction
import SyntaxColor.Proofs.Brackets.Region
import SyntaxColor.Proofs.LineBreak
import SyntaxColor.Proofs.Operand.Literal
import SyntaxColor.Proofs.Operand.Name

namespace SyntaxColor

open Text

/-! ## Operands -/

/-- Whether the token is an operand: a name that is no keyword which an expression may follow, a
    literal, the end of a template literal, a closing bracket, a closing parenthesis that closes no
    head of a control statement, or a `>` behind which there is script again, which ends an element.
    `next` is the context after the token. -/
def Token.IsOperand (token : Token) (next : Context) : Prop :=
  match token.kind with
  | .identifier => token.text ∉ Word.expressionKeywords
  | .privateName | .number | .string | .regex | .template | .templateTail => True
  | .punctuator => token.text = [']'] ∨ token.text = [')'] ∧ next.last ≠ .controlHeadEnd
  | .jsxMark => token.text = ['>'] ∧ next.region.isJsx = false
  | _ => False

section Operand

variable {jsx : Bool} {s : Context} {text rest : Text} {step : Step} {seen : List Entry}

/-- A parenthesis is an operand, unless it closes the head of a control statement. -/
theorem operandBefore_closeParen (h : s.closeParen.last ≠ .controlHeadEnd) :
    s.closeParen.operandBefore = true := by
  unfold Context.closeParen at h ⊢
  dsimp only at h ⊢
  split
  · next hhead =>
    rw [if_pos hhead] at h
    exact absurd rfl h
  · rfl

/-- What an operand that is no name leaves behind it. -/
theorem Takes.isOperand (h : Takes jsx s text step) (hstacked : Stacked s.regions)
    (hname : step.kind ≠ .identifier ∧ step.kind ≠ .privateName)
    (hoperand : (step.entry text).1.IsOperand step.next) :
    step.next.region.isJsx = false ∧ step.next.operandBefore = true := by
  cases h with
  | number hregion | string hregion | template hregion | regex hregion => exact ⟨hregion, rfl⟩
  | templateTail hregion => exact ⟨hstacked.isJsx_leave (.inr ⟨_, hregion⟩), rfl⟩
  | punctuator hregion =>
    refine ⟨isJsx_afterPunctuator hstacked hregion _, ?_⟩
    obtain hbracket | ⟨hparen, hhead⟩ : text.take (Lexeme.punctuator text) = [']'] ∨
        text.take (Lexeme.punctuator text) = [')'] ∧
          (s.afterPunctuator (text.take (Lexeme.punctuator text))).last ≠ .controlHeadEnd :=
      hoperand
    · rw [hbracket]
      rfl
    · rw [hparen] at hhead ⊢
      exact operandBefore_closeParen hhead
  | closeTag => exact ⟨hoperand.2, (closeTag_of_script hoperand.2).2⟩
  | identifier | privateName => simp at hname
  | jsxHoleEnd | tagStart | openTag | openHole | slash | childTag | childHole =>
    simp [Step.entry, Token.IsOperand] at hoperand
  | otherMark _ hmark =>
    obtain ⟨htext, -⟩ := hoperand
    simp [Step.entry] at htext
    simp [htext] at hmark
  | templateMiddle | templateHead | jsxName | jsxValue | jsxContent | whitespace | lineBreak
  | blockComment | lineComment | stray | jsxStray => cases hoperand

/-- Behind an operand there is script, and it is remembered that there is one. -/
theorem Reached.isOperand {entry : Entry} (h : Reached jsx text (seen ++ [entry]) s rest)
    (hoperand : entry.1.IsOperand entry.2) :
    entry.2.region.isJsx = false ∧ entry.2.operandBefore = true := by
  by_cases hname : entry.1.kind = .identifier ∨ entry.1.kind = .privateName
  · obtain ⟨_, _, _, hleaves⟩ := h.leavesName hname
    have hword : entry.1.text ∉ Word.expressionKeywords := by
      obtain hidentifier | hprivate := hname
      · simpa [Token.IsOperand, hidentifier] using hoperand
      · exact hleaves.keyword hprivate
    refine ⟨hleaves.script.2, ?_⟩
    rw [hleaves.operandBefore]
    exact decide_eq_true hword
  · have hhashbang : seen = [] → entry.1.kind ≠ .hashbang := by
      rintro - hhashbang
      simp [Token.IsOperand, hhashbang] at hoperand
    obtain ⟨_, _, _, hreached, htakes, rfl, -⟩ := h.exists_takes_of_kind hhashbang
    exact htakes.isOperand hreached.stacked (not_or.1 hname) hoperand

end Operand

/-! ## Operands before trivia -/

/-- Whether a line ends inside one of the tokens. -/
def endsLine (trivia : List Entry) : Bool := trivia.any fun entry => entry.1.text.any isLineEnd

theorem endsLine_eq_false_iff {trivia : List Entry} :
    endsLine trivia = false ↔ ∀ entry ∈ trivia, ∀ c ∈ entry.1.text, isLineEnd c = false := by
  simp [endsLine]

theorem endsLine_append (trivia : List Entry) (entry : Entry) :
    endsLine (trivia ++ [entry]) = (endsLine trivia || entry.1.text.any isLineEnd) := by
  simp [endsLine]

section Trivia

variable {jsx : Bool} {s : Context} {text rest : Text} {step : Step} {seen trivia : List Entry}

theorem operandBefore_breakLine (s : Context) : s.breakLine.operandBefore = false := by
  unfold Context.breakLine
  split
  · split <;> rfl
  · rfl

/-- Trivia bring no operand before them, and where a line ends in them there is none behind them. -/
theorem Takes.operandBefore_le (h : Takes jsx s text step) (hkind : step.kind.isTrivia = true)
    (hoperand : step.next.operandBefore = true) :
    s.operandBefore = true ∧ (text.take step.length).any isLineEnd = false := by
  cases h with
  | whitespace =>
    have hline := (madeOf_runLength Lexeme.isBlank text).staysOnLine (by decide)
    exact ⟨hoperand, List.any_eq_false.2 fun c hc => by simpa using hline c hc⟩
  | lineBreak =>
    rw [operandBefore_breakLine] at hoperand
    cases hoperand
  | blockComment =>
    dsimp only at hoperand ⊢
    split at hoperand
    · rw [operandBefore_breakLine] at hoperand
      cases hoperand
    · next hline => exact ⟨hoperand, Bool.eq_false_iff.2 hline⟩
  | lineComment => cases hoperand
  | _ => cases hkind

/-- So it is over all trivia: an operand that is remembered stands before them, on the same line. -/
theorem Reached.operandBefore_le (h : Reached jsx text (seen ++ trivia) s rest)
    (hseen : seen ≠ []) (htrivia : ∀ entry ∈ trivia, entry.1.kind.isTrivia = true)
    (hoperand : s.operandBefore = true) :
    (contextAfter {} seen).operandBefore = true ∧ endsLine trivia = false := by
  induction trivia using List.reverseRecOn generalizing s rest with
  | nil =>
    rw [List.append_nil] at h
    rw [← h.context_eq]
    exact ⟨hoperand, rfl⟩
  | append_singleton trivia entry ih =>
    rw [← List.append_assoc] at h
    obtain rfl : s = entry.2 := by rw [h.context_eq, contextAfter_append]
    obtain ⟨hbefore, hentry⟩ := List.forall_mem_append.1 htrivia
    obtain ⟨s', rest', step, hreached, htakes, rfl⟩ := h.exists_takes (by simp [hseen])
    obtain ⟨hoperand', hline⟩ :=
      htakes.operandBefore_le (hentry _ (List.mem_singleton_self _)) hoperand
    obtain ⟨hfirst, hlines⟩ := ih hreached hbefore hoperand'
    refine ⟨hfirst, ?_⟩
    rw [endsLine_append, hlines]
    exact hline

/-- Behind trivia an operand is remembered if one was before them and no line ends in them, given
    that something follows on the line. -/
theorem Reached.operandBefore_behind (h : Reached jsx text (seen ++ trivia) s rest)
    (hseen : seen ≠ []) (htrivia : ∀ entry ∈ trivia, entry.1.kind.isTrivia = true)
    {c : Char} (hnext : rest.head? = some c) (hc : isLineEnd c = false) :
    s.operandBefore = ((contextAfter {} seen).operandBefore && !endsLine trivia) := by
  cases hline : endsLine trivia with
  | false =>
    rw [h.operandBefore_over_trivia hseen htrivia (endsLine_eq_false_iff.1 hline) hnext hc]
    simp
  | true =>
    cases hoperand : s.operandBefore with
    | false => simp
    | true =>
      rw [(h.operandBefore_le hseen htrivia hoperand).2] at hline
      cases hline

end Trivia

/-! ## Slashes behind updates -/

/-- Let a `++` or `--` stand behind an operand, and a token that begins with a slash and is no
    comment behind that, with only white space, line breaks and comments between them.  If a line
    ends between the operand and the `++` or `--`, this stands before its operand, and the slash
    begins a regular expression; otherwise it stands behind its operand, and the slash divides. -/
theorem slash_behind_update {jsx : Bool} {text : Text} {seen trivia blanks later : List Entry}
    {operand update slash : Token} {atOperand atUpdate atSlash : Context}
    (htrace : text.trace jsx = seen ++ [(operand, atOperand)] ++ trivia ++ [(update, atUpdate)] ++
      blanks ++ [(slash, atSlash)] ++ later)
    (hoperand : operand.IsOperand atOperand)
    (htrivia : ∀ entry ∈ trivia, entry.1.kind.isTrivia = true)
    (hupdate : update.kind = .punctuator ∧ update.text ∈ updates)
    (hblanks : ∀ entry ∈ blanks, entry.1.kind.isTrivia = true)
    (hslash : slash.kind.isTrivia = false ∧ slash.text.head? = some '/') :
    atUpdate.last = (if endsLine trivia then .prefixUpdate else .postfixUpdate) ∧
      slash.kind = if endsLine trivia then .regex else .punctuator := by
  obtain ⟨_, hall⟩ := reached_of_trace_eq htrace
  obtain ⟨_, _, hupto⟩ := hall.of_append
  obtain ⟨_, _, hbefore⟩ := hupto.of_append
  obtain ⟨_, _, htoken⟩ := hbefore.of_append
  obtain ⟨_, _, hentry⟩ := htoken.of_append
  obtain ⟨hscript, hremembered⟩ := hentry.isOperand hoperand
  obtain ⟨s', _, c, hreached, hhead, hend, -, hinScript, hlast⟩ :=
    hbefore.takesUpdate hscript htrivia (by rw [hupdate.1]; rfl) hupdate.2
  have hbehind : s'.operandBefore = !endsLine trivia := by
    rw [hreached.operandBefore_behind (by simp) htrivia hhead hend, contextAfter_append,
      hremembered, Bool.true_and]
  have hmark : atUpdate.last = if endsLine trivia then .prefixUpdate else .postfixUpdate := by
    rw [hlast, hbehind]
    cases endsLine trivia <;> rfl
  refine ⟨hmark, ?_⟩
  rw [hall.slash_behind hinScript hblanks hslash.1 hslash.2, hmark]
  cases endsLine trivia <;> rfl

/-- A line ends in the comment between the name and the `++`, which is before its operand then. -/
theorem slash_behind_update_comment :
    ∃ token ∈ Text.tokens true "a/*\n*/++ /b/g".toList,
      token.text.head? = some '/' ∧ token.kind = .regex := by
  let trace := Text.trace true "a/*\n*/++ /b/g".toList
  have htrace : trace = [] ++ [(⟨.identifier, ['a']⟩, contextAfter {} (trace.take 1))] ++
      (trace.take 2).drop 1 ++ [(⟨.punctuator, ['+', '+']⟩, contextAfter {} (trace.take 3))] ++
      (trace.take 4).drop 3 ++ [(⟨.regex, "/b/g".toList⟩, contextAfter {} (trace.take 5))] ++ [] := by
    decide +kernel
  have hoperand : Token.IsOperand ⟨.identifier, ['a']⟩ (contextAfter {} (trace.take 1)) := by
    show ['a'] ∉ Word.expressionKeywords
    decide
  obtain ⟨-, hkind⟩ := slash_behind_update htrace hoperand (by decide +kernel) (by decide)
    (by decide +kernel) (by decide)
  have hline : endsLine ((trace.take 2).drop 1) = true := by decide +kernel
  rw [if_pos hline] at hkind
  exact ⟨⟨.regex, "/b/g".toList⟩, by decide +kernel, rfl, hkind⟩

end SyntaxColor
