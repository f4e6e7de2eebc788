/-
  Signs: the characters that are operators behind an operand, and begin something else where an
  expression may begin.

  `takesSign_step`: in script, a sign begins a regular expression, a tag or a punctuator.
  `Reached.slash_behind`, `Reached.less_behind`: which of them it is, behind a token and trivia, is
  told by the landmark that the token leaves.
-/
import SyntaxColor.Proofs.Brackets.Landmark
import SyntaxColor.Proofs.Token.Seam

namespace SyntaxColor

open Text

/-! ## Steps -/

/-- The characters that may begin an operator or something else: a regular expression, a tag. -/
def signs : List Char := ['/', '<', '+', '-']

/-- What a step can be in script that reads a token at a sign, other than trivia. -/
inductive TakesSign (jsx : Bool) (s : Context) (text : Text) : Step → Prop
  | regex (hhead : text.head? = some '/') (hlast : s.last.expressionMayFollow = true) :
      TakesSign jsx s text
        ⟨.regex, Lexeme.regex text, s.afterOperand (text.take (Lexeme.regex text))⟩
  | tagStart (hhead : text.head? = some '<') (hjsx : jsx = true)
      (hlast : s.last.expressionMayFollow = true) : TakesSign jsx s text ⟨.jsxMark, 1, s.openTag⟩
  | punctuator (hregex : s.last.expressionMayFollow = true → Lexeme.regex text = 0)
      (htag : jsx = true → s.last.expressionMayFollow = true →
        text.take (Lexeme.punctuator text) ≠ ['<'])
      (hlength : Lexeme.punctuator text ≠ 0) :
      TakesSign jsx s text
        ⟨.punctuator, Lexeme.punctuator text,
          s.afterPunctuator (text.take (Lexeme.punctuator text))⟩

/-- A sign begins no name, string, number or template literal. -/
theorem sign_begins {c : Char} (hc : c ∈ signs) :
    Unicode.beginsName c = false ∧ Lexeme.isQuote c = false ∧ c.isDigit = false ∧
      c ∉ ['\\', '#', '.', '}', '\x60'] := by
  have hall : signs.all (fun c => !Unicode.beginsName c && !Lexeme.isQuote c && !c.isDigit &&
      c ∉ ['\\', '#', '.', '}', '\x60']) = true := by
    decide +kernel
  simpa [and_assoc] using List.all_eq_true.1 hall c hc

section Sign

variable {jsx : Bool} {s : Context} {c : Char} {text : Text} {step : Step}

/-- In script, every sign is part of a token. -/
theorem not_stray_sign {rest : Text} (hregion : s.region.isJsx = false) (hc : c ∈ signs) :
    ¬ ∀ rule ∈ s.region.rules jsx, rule s (c :: rest) = none := by
  intro hrules
  have hodd := (beginsNoToken_of_rules hrules).mem_oddCharacters hregion
  simp only [signs, List.mem_cons, List.not_mem_nil, or_false] at hc
  obtain rfl | rfl | rfl | rfl := hc <;> exact absurd (hodd (by decide)) (by decide)

/-- In script, a sign that begins no comment begins a regular expression, a tag or a punctuator. -/
theorem takesSign_step (h : Takes jsx s text step) (hregion : s.region.isJsx = false)
    (hhead : text.head? = some c) (hc : c ∈ signs) (hkind : step.kind.isTrivia = false) :
    TakesSign jsx s text step := by
  obtain ⟨hname, hquote, hdigit, hother⟩ := sign_begins hc
  obtain ⟨rest, rfl⟩ := List.head?_eq_some_iff.1 hhead
  generalize htext : c :: rest = text at h
  cases h with
  | regex _ hlast hlength => exact .regex (Lexeme.head?_of_regex hlength) hlast
  | tagStart _ hjsx hlast => exact .tagStart rfl hjsx hlast
  | punctuator _ hregex _ htag hlength => exact .punctuator hregex htag hlength
  | identifier _ hlength | privateName _ hlength =>
    obtain ⟨d, hd, hbegins⟩ := Lexeme.head?_of_name hlength
    obtain rfl : c = d := by simpa [← htext] using hd
    simp only [hname, Bool.false_eq_true, false_or, List.mem_cons, List.not_mem_nil,
      or_false] at hbegins
    obtain rfl | rfl := hbegins <;> simp at hother
  | string _ hlength =>
    obtain ⟨d, hd, hisQuote⟩ := Lexeme.head?_of_string hlength
    obtain rfl : c = d := by simpa [← htext] using hd
    rw [hquote] at hisQuote
    cases hisQuote
  | number _ hlength =>
    subst htext
    have hpoint : c ≠ '.' := fun heq => hother (by simp [heq])
    exact absurd (Lexeme.number_eq_zero hdigit hpoint rest) hlength
  | stray _ hrules | jsxStray _ hrules =>
    obtain ⟨rfl, rfl⟩ := List.cons.inj htext
    exact absurd hrules (not_stray_sign hregion hc)
  | whitespace | lineBreak | blockComment | lineComment => cases hkind
  | templateMiddle | templateTail | jsxHoleEnd | templateHead | template =>
    obtain ⟨rfl, -⟩ := List.cons.inj htext
    simp at hother
  | openTag htag | closeTag htag | openHole htag | slash htag | otherMark htag | jsxName htag
  | jsxValue htag =>
    rw [isJsx_of_tag htag] at hregion
    cases hregion
  | jsxContent hchildren | childTag hchildren | childHole hchildren =>
    rw [hchildren] at hregion
    cases hregion

/-- A slash begins a regular expression where an expression may begin, and is a punctuator
    elsewhere. -/
theorem TakesSign.kind_of_slash (h : TakesSign jsx s text step) (hhead : text.head? = some '/') :
    step.kind = if s.last.expressionMayFollow then .regex else .punctuator := by
  cases h with
  | regex _ hlast => rw [if_pos hlast]
  | tagStart hless =>
    rw [hhead] at hless
    cases hless
  | punctuator hregex _ hlength =>
    obtain ⟨rest, rfl⟩ := List.head?_eq_some_iff.1 hhead
    refine (if_neg fun hlast => hlength ?_).symm
    exact Lexeme.punctuator_slash_eq_zero_iff.2 (Lexeme.regex_slash_eq_zero_iff.1 (hregex hlast))

/-- A `<` that is no longer punctuator opens a tag where an expression may begin, if there is JSX
    at all, and is a punctuator elsewhere. -/
theorem TakesSign.kind_of_less (h : TakesSign jsx s text step) (hhead : text.head? = some '<') :
    step.kind = if jsx = true ∧ s.last.expressionMayFollow = true ∧
      (step.entry text).1.text = ['<'] then .jsxMark else .punctuator := by
  cases h with
  | regex hslash =>
    rw [hhead] at hslash
    cases hslash
  | tagStart _ hjsx hlast =>
    obtain ⟨rest, rfl⟩ := List.head?_eq_some_iff.1 hhead
    rw [if_pos ⟨hjsx, hlast, rfl⟩]
  | punctuator _ htag => exact (if_neg fun ⟨hjsx, hlast, htext⟩ => htag hjsx hlast htext).symm

/-- Every punctuator is one of those that there are. -/
theorem Takes.mem_punctuators (h : Takes jsx s text step) (hkind : step.kind = .punctuator) :
    text.take step.length ∈ Lexeme.punctuators := by
  cases h with
  | punctuator _ _ _ _ hlength => exact Lexeme.take_punctuator_mem hlength
  | _ => cases hkind

end Sign

theorem mem_punctuators_of_mem_tokens {jsx : Bool} {text : Text} {token : Token}
    (h : token ∈ text.tokens jsx) (hkind : token.kind = .punctuator) :
    token.text ∈ Lexeme.punctuators := by
  refine forall_tokens (P := fun token => token.kind = .punctuator →
    token.text ∈ Lexeme.punctuators) (fun _ h => by cases h) ?_ token h hkind
  intro s text hne hkind
  exact (takes_step jsx s hne).mem_punctuators hkind

/-- A punctuator that begins with a slash divides. -/
theorem mem_divisions_of_mem_tokens {jsx : Bool} {text : Text} {token : Token}
    (h : token ∈ text.tokens jsx) (hkind : token.kind = .punctuator)
    (hhead : token.text.head? = some '/') : token.text ∈ [['/'], ['/', '=']] := by
  have hmarks : ∀ mark ∈ Lexeme.punctuators, mark.head? = some '/' →
      mark ∈ [['/'], ['/', '=']] := by decide
  exact hmarks _ (mem_punctuators_of_mem_tokens h hkind) hhead

/-! ## Behind trivia -/

section Behind

variable {jsx : Bool} {text rest : Text} {seen trivia : List Entry} {s : Context}

theorem head?_of_take {n : Nat} {c : Char} (h : (text.take n).head? = some c) :
    text.head? = some c := by
  obtain ⟨more, hmore⟩ := List.head?_eq_some_iff.1 h
  rw [← List.take_append_drop n text, hmore]
  rfl

/-- What a sign begins behind a token and trivia is told by the landmark that the token leaves. -/
theorem Reached.takesSign {entry later : Entry} {c : Char}
    (h : Reached jsx text (seen ++ [entry] ++ trivia ++ [later]) s rest)
    (hregion : entry.2.region.isJsx = false)
    (htrivia : ∀ entry ∈ trivia, entry.1.kind.isTrivia = true)
    (hkind : later.1.kind.isTrivia = false) (hhead : later.1.text.head? = some c)
    (hc : c ∈ signs) : ∃ s' rest' step, later = step.entry rest' ∧ rest'.head? = some c ∧
      Reached jsx text (seen ++ [entry] ++ trivia) s' rest' ∧ TakesSign jsx s' rest' step ∧
      s'.region = entry.2.region ∧
      s'.last.expressionMayFollow = entry.2.last.expressionMayFollow := by
  obtain ⟨s', rest', step, hreached, htakes, rfl⟩ := h.exists_takes (by simp)
  obtain ⟨hsame, hfollow⟩ := hreached.over_trivia (by simp) htrivia
  rw [contextAfter_append] at hsame hfollow
  have hhead' : rest'.head? = some c := head?_of_take hhead
  exact ⟨s', rest', step, rfl, hhead', hreached,
    takesSign_step htakes (hsame ▸ hregion) hhead' hc hkind, hsame, hfollow⟩

/-- Behind a token and trivia, a slash that begins no comment begins a regular expression if the
    landmark that the token leaves lets an expression follow, and is a punctuator otherwise. -/
theorem Reached.slash_behind {entry later : Entry}
    (h : Reached jsx text (seen ++ [entry] ++ trivia ++ [later]) s rest)
    (hregion : entry.2.region.isJsx = false)
    (htrivia : ∀ entry ∈ trivia, entry.1.kind.isTrivia = true)
    (hkind : later.1.kind.isTrivia = false) (hhead : later.1.text.head? = some '/') :
    later.1.kind = if entry.2.last.expressionMayFollow then .regex else .punctuator := by
  obtain ⟨s', rest', step, rfl, hhead', -, htakes, -, hfollow⟩ :=
    h.takesSign hregion htrivia hkind hhead (by simp [signs])
  rw [← hfollow]
  exact htakes.kind_of_slash hhead'

/-- So with a `<` and tags. -/
theorem Reached.less_behind {entry later : Entry}
    (h : Reached jsx text (seen ++ [entry] ++ trivia ++ [later]) s rest)
    (hregion : entry.2.region.isJsx = false)
    (htrivia : ∀ entry ∈ trivia, entry.1.kind.isTrivia = true)
    (hkind : later.1.kind.isTrivia = false) (hhead : later.1.text.head? = some '<') :
    later.1.kind = if jsx = true ∧ entry.2.last.expressionMayFollow = true ∧
      later.1.text = ['<'] then .jsxMark else .punctuator := by
  obtain ⟨s', rest', step, rfl, hhead', -, htakes, -, hfollow⟩ :=
    h.takesSign hregion htrivia hkind hhead (by simp [signs])
  rw [← hfollow]
  exact htakes.kind_of_less hhead'

end Behind

/-! ## Operands before trivia -/

theorem exists_lineEnd_of_lineBreak {text : Text} (h : Lexeme.lineBreak text ≠ 0) :
    ∃ c ∈ text.take (Lexeme.lineBreak text), isLineEnd c = true := by
  revert h
  unfold Lexeme.lineBreak
  fun_cases lineBreakLength text with
  | case1 rest => exact fun _ => ⟨'\r', by simp, rfl⟩
  | case2 c rest _ hend => exact fun _ => ⟨c, by simp, hend⟩
  | case3 => exact fun h => absurd rfl h
  | case4 => exact fun h => absurd rfl h

/-- What comes behind a comment up to the end of its line is that end. -/
theorem isLineEnd_behind_lineComment {text : Text} {c : Char} (h : Lexeme.lineComment text ≠ 0)
    (hnext : (text.drop (Lexeme.lineComment text)).head? = some c) : isLineEnd c = true := by
  revert h hnext
  fun_cases Lexeme.lineComment text with
  | case1 => exact fun _ hnext => by simpa using head?_drop_runLength hnext
  | case2 => exact fun h => absurd rfl h

section Operands

variable {jsx : Bool} {text rest : Text} {seen trivia : List Entry} {s : Context} {step : Step}

/-- On one line, trivia before something else change nothing about the operand before them.  A
    comment up to the end of its line is not there: the line end would follow. -/
theorem Takes.operandBefore_of_isTrivia (h : Takes jsx s text step)
    (hkind : step.kind.isTrivia = true) (hline : ∀ c ∈ text.take step.length, isLineEnd c = false)
    {c : Char} (hnext : (text.drop step.length).head? = some c) (hc : isLineEnd c = false) :
    step.next.operandBefore = s.operandBefore := by
  cases h with
  | whitespace => rfl
  | lineBreak hlength =>
    obtain ⟨d, hd, hend⟩ := exists_lineEnd_of_lineBreak hlength
    rw [hline d hd] at hend
    cases hend
  | blockComment =>
    have hany : (text.take (Lexeme.blockComment text)).any isLineEnd = false := by
      simpa using hline
    rw [hany]
    rfl
  | lineComment hlength =>
    rw [isLineEnd_behind_lineComment hlength hnext] at hc
    cases hc
  | _ => cases hkind

/-- So it is over all trivia on one line. -/
theorem Reached.operandBefore_over_trivia (h : Reached jsx text (seen ++ trivia) s rest)
    (hseen : seen ≠ []) (htrivia : ∀ entry ∈ trivia, entry.1.kind.isTrivia = true)
    (hline : ∀ entry ∈ trivia, ∀ c ∈ entry.1.text, isLineEnd c = false)
    {c : Char} (hnext : rest.head? = some c) (hc : isLineEnd c = false) :
    s.operandBefore = (contextAfter {} seen).operandBefore := by
  induction hlength : trivia.length generalizing trivia s rest c with
  | zero =>
    rw [List.length_eq_zero_iff.1 hlength, List.append_nil] at h
    rw [← h.context_eq]
  | succ n ih =>
    -- The last of the trivia is a step, before which the others were read.
    obtain rfl | ⟨trivia, entry, rfl⟩ := List.eq_nil_or_concat trivia
    · cases hlength
    rw [List.concat_eq_append] at h htrivia hline hlength
    rw [← List.append_assoc] at h
    have hs : s = entry.2 := by rw [h.context_eq, contextAfter_append]
    obtain ⟨s', rest', step, hreached, htakes, rfl, rfl⟩ :=
      h.exists_takes_of_kind (by simp [hseen])
    obtain ⟨hbefore, hentry⟩ := List.forall_mem_append.1 htrivia
    obtain ⟨hlines, hentryLine⟩ := List.forall_mem_append.1 hline
    have hstep := htakes.operandBefore_of_isTrivia (hentry _ (List.mem_singleton_self _))
      (hentryLine _ (List.mem_singleton_self _)) hnext hc
    obtain ⟨d, more, rfl⟩ := List.exists_cons_of_length_pos
      (Nat.lt_of_lt_of_le htakes.length_bounds.1 htakes.length_bounds.2)
    have hd : d ∈ (d :: more).take step.length := by
      rw [← Nat.sub_add_cancel htakes.length_bounds.1]
      simp
    rw [hs, Step.entry, hstep]
    refine ih hreached hbefore hlines rfl (hentryLine _ (List.mem_singleton_self _) d hd) ?_
    simpa using hlength

/-- The punctuators that stand behind or before their operand. -/
def updates : List Text := [['+', '+'], ['-', '-']]

/-- Behind a token and trivia, a `++` or `--` is a punctuator, and is behind its operand if one
    stands right before it. -/
theorem Reached.takesUpdate {entry later : Entry}
    (h : Reached jsx text (seen ++ [entry] ++ trivia ++ [later]) s rest)
    (hregion : entry.2.region.isJsx = false)
    (htrivia : ∀ entry ∈ trivia, entry.1.kind.isTrivia = true)
    (hkind : later.1.kind.isTrivia = false) (hupdate : later.1.text ∈ updates) :
    ∃ s' rest' c, Reached jsx text (seen ++ [entry] ++ trivia) s' rest' ∧
      rest'.head? = some c ∧ isLineEnd c = false ∧ later.1.kind = .punctuator ∧
      later.2.region.isJsx = false ∧
      later.2.last = if s'.operandBefore then .postfixUpdate else .prefixUpdate := by
  have hheads : ∀ mark ∈ updates, mark.head? = some '+' ∨ mark.head? = some '-' := by decide
  obtain ⟨c, hhead, hc⟩ : ∃ c, later.1.text.head? = some c ∧ c ∈ ['+', '-'] := by
    obtain hhead | hhead := hheads _ hupdate
    · exact ⟨'+', hhead, by simp⟩
    · exact ⟨'-', hhead, by simp⟩
  have hother : c ≠ '/' ∧ c ≠ '<' ∧ c ∈ signs ∧ isLineEnd c = false := by
    simp only [List.mem_cons, List.not_mem_nil, or_false] at hc
    obtain rfl | rfl := hc <;> decide
  obtain ⟨hslash, hless, hsign, hend⟩ := hother
  obtain ⟨s', rest', step, rfl, hhead', hreached, htakes, hsame, -⟩ :=
    h.takesSign hregion htrivia hkind hhead hsign
  refine ⟨s', rest', c, hreached, hhead', hend, ?_⟩
  cases htakes with
  | regex hhead'' =>
    rw [hhead'] at hhead''
    exact absurd (Option.some.inj hhead'') hslash
  | tagStart hhead'' =>
    rw [hhead'] at hhead''
    exact absurd (Option.some.inj hhead'') hless
  | punctuator =>
    have hafter : ∀ mark ∈ updates, s'.afterPunctuator mark = s'.update := by
      intro mark hmark
      simp only [updates, List.mem_cons, List.not_mem_nil, or_false] at hmark
      obtain rfl | rfl := hmark <;> rfl
    have hnext : s'.afterPunctuator (rest'.take (Lexeme.punctuator rest')) = s'.update :=
      hafter _ hupdate
    rw [Step.entry, hnext, Context.update]
    exact ⟨rfl, hsame ▸ hregion, rfl⟩

/-- Behind a token and trivia on one line, a `++` or `--` is behind its operand if the token is
    one. -/
theorem Reached.update_behind {entry later : Entry}
    (h : Reached jsx text (seen ++ [entry] ++ trivia ++ [later]) s rest)
    (hregion : entry.2.region.isJsx = false)
    (htrivia : ∀ entry ∈ trivia, entry.1.kind.isTrivia = true)
    (hline : ∀ entry ∈ trivia, ∀ c ∈ entry.1.text, isLineEnd c = false)
    (hkind : later.1.kind.isTrivia = false) (hupdate : later.1.text ∈ updates) :
    later.1.kind = .punctuator ∧ later.2.region.isJsx = false ∧
      later.2.last = if entry.2.operandBefore then .postfixUpdate else .prefixUpdate := by
  obtain ⟨s', rest', c, hreached, hhead, hend, hpunctuator, hscript, hlast⟩ :=
    h.takesUpdate hregion htrivia hkind hupdate
  have hoperand := hreached.operandBefore_over_trivia (by simp) htrivia hline hhead hend
  rw [contextAfter_append] at hoperand
  rw [← hoperand]
  exact ⟨hpunctuator, hscript, hlast⟩

end Operands

end SyntaxColor
