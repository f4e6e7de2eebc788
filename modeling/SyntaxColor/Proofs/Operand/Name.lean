/-
  Names as operands.

  An operator stands behind a name, unless the name is one of the keywords that an expression may
  follow.  The lexer only looks at the spelling: also a name that ends in the brace of an escape
  is taken for something that an expression may follow, and so is a property that is called like
  one of these keywords.

  `expressionMayFollow_nameLandmark`: what the spelling decides.
  `sign_behind_name`: what a slash or a `<` begins behind a name.
  `sign_behind_property`: what they begin behind a property name, and whether a `++` or `--` is
  behind its operand there.
-/
import SyntaxColor.Proofs.Lexeme.Shape
import SyntaxColor.Proofs.Operand.Sign
import SyntaxColor.Proofs.Token.Seam

namespace SyntaxColor

open Text

/-! ## What a name leaves -/

section Landmark

variable {jsx : Bool} {s : Context} {text : Text} {step : Step}

theorem Takes.of_name (h : Takes jsx s text step)
    (hkind : step.kind = .identifier ∨ step.kind = .privateName) :
    s.region.isJsx = false ∧ Lexeme.name text ≠ 0 ∧ step.length = Lexeme.name text ∧
      step.next = Rule.afterName s (text.take (Lexeme.name text)) ∧
      (step.kind = .privateName → text.head? = some '#') := by
  cases h with
  | identifier hregion hlength => exact ⟨hregion, hlength, rfl, rfl, by simp⟩
  | privateName hregion hlength hhead => exact ⟨hregion, hlength, rfl, rfl, fun _ => hhead⟩
  | _ => simp at hkind

/-- Of the last characters that a name can have, only the brace lets an expression follow. -/
theorem expressionMayFollow_of_getLast? {name : Text} {c : Char} (hlast : name.getLast? = some c)
    (hc : Unicode.continuesName c = true ∨ c = '}') :
    name.expressionMayFollow =
      (name.getLast? = some '}' || name ∈ Word.expressionKeywords) := by
  have hmarks : ∀ mark ∈ openingMarks,
      mark.getLast?.any (fun c => Unicode.continuesName c || c = '}') = false := by
    decide +kernel
  have hopening : openingCharacters.all (fun c => !Unicode.continuesName c || c = '}') = true := by
    decide +kernel
  have hmark : name ∉ openingMarks := by
    intro hmem
    have hnone := hmarks name hmem
    rw [hlast] at hnone
    obtain hc | rfl := hc
    · simp [hc] at hnone
    · simp at hnone
  have hcharacter : c ∈ openingCharacters ↔ c = '}' := by
    constructor
    · intro hmem
      have hnone := List.all_eq_true.1 hopening c hmem
      obtain hc | rfl := hc
      · simpa [hc] using hnone
      · rfl
    · rintro rfl
      decide
  rw [Text.expressionMayFollow, hlast]
  simp only [hmark, hcharacter, Option.any_some, Option.some.injEq, decide_false, Bool.false_or]

/-- An expression may follow a name if it ends in a brace, or is a keyword of that sort. -/
theorem expressionMayFollow_nameLandmark (h : Lexeme.name text ≠ 0) :
    (Rule.nameLandmark s (text.take (Lexeme.name text))).expressionMayFollow =
      ((text.take (Lexeme.name text)).getLast? = some '}' ||
        text.take (Lexeme.name text) ∈ Word.expressionKeywords) := by
  have hwords : ∀ word ∈ Word.controlKeywords,
      (Landmark.token word).expressionMayFollow = false := by decide
  obtain ⟨c, hlast, hc⟩ := Lexeme.getLast?_of_name h
  rw [← expressionMayFollow_of_getLast? hlast hc]
  unfold Rule.nameLandmark
  split
  · next hword => exact (hwords _ hword.1).symm
  · rfl

end Landmark

/-- Behind a point, no name is a control keyword. -/
theorem nameLandmark_of_isPoint {s : Context} (h : s.last.isPoint = true) (name : Text) :
    Rule.nameLandmark s name = .token name := by
  refine if_neg fun ⟨_, hpoint, hquestion⟩ => ?_
  simp [Landmark.isPoint, hpoint, hquestion] at h

theorem isTrivia_of_isPoint {token : Token} (h : token.isPoint = true) :
    token.kind.isTrivia = false := by
  simp only [Token.isPoint, Bool.or_eq_true, decide_eq_true_eq] at h
  obtain rfl | rfl := h <;> rfl

/-- The last token that is no trivia. -/
theorem head?_significant {seen trivia : List Entry} {entry : Entry}
    (htrivia : ∀ entry ∈ trivia, entry.1.kind.isTrivia = true)
    (hkind : entry.1.kind.isTrivia = false) :
    (significant (pastOf (seen ++ [entry] ++ trivia))).head? = some entry.1 := by
  have hnone : significant (pastOf trivia) = [] := by
    simpa [significant, pastOf] using htrivia
  have hpast : pastOf (seen ++ [entry] ++ trivia) = pastOf trivia ++ entry.1 :: pastOf seen := by
    simp [pastOf]
  rw [hpast, significant, List.filter_append, ← significant, ← significant, hnone,
    List.nil_append, significant_cons hkind]
  rfl

/-- What a name leaves behind it; `s` is the context before the name. -/
structure LeavesName (s : Context) (name : Token) (next : Context) : Prop where
  script : s.region.isJsx = false ∧ next.region.isJsx = false
  last : next.last = Rule.nameLandmark s name.text
  expressionMayFollow : next.last.expressionMayFollow =
    (name.text.getLast? = some '}' || name.text ∈ Word.expressionKeywords)
  operandBefore : next.operandBefore = (name.text ∉ Word.expressionKeywords : Bool)
  /-- Only in an escape there is a brace. -/
  escape : '\\' ∉ name.text → '}' ∉ name.text
  /-- No keyword begins as private names do. -/
  keyword : name.kind = .privateName → name.text ∉ Word.expressionKeywords

section Runs

variable {jsx : Bool} {text rest : Text} {seen trivia : List Entry} {s : Context}

theorem Reached.leavesName {entry : Entry} (h : Reached jsx text (seen ++ [entry]) s rest)
    (hkind : entry.1.kind = .identifier ∨ entry.1.kind = .privateName) :
    ∃ s' rest', Reached jsx text seen s' rest' ∧ LeavesName s' entry.1 entry.2 := by
  have hhashbang : seen = [] → entry.1.kind ≠ .hashbang := by
    rintro - hhashbang
    simp [hhashbang] at hkind
  obtain ⟨s', rest', step, hreached, htakes, rfl, -⟩ := h.exists_takes_of_kind hhashbang
  obtain ⟨hregion, hlength, hall, hnext, hhash⟩ := htakes.of_name hkind
  rw [Step.entry, hall, hnext]
  refine ⟨s', rest', hreached, ⟨hregion, hregion⟩, rfl, ?_, rfl, ?_, ?_⟩
  · exact expressionMayFollow_nameLandmark hlength
  · exact Lexeme.brace_not_mem_name hlength
  · intro hprivate hmem
    have hwords : ∀ word ∈ Word.expressionKeywords, word.head? ≠ some '#' := by decide
    refine hwords _ hmem ?_
    rw [List.head?_take, if_neg hlength, hhash hprivate]

/-- What a sign begins behind a name. -/
theorem LeavesName.sign_behind {before : Context} {entry later : Entry}
    (hleaves : LeavesName before entry.1 entry.2)
    (h : Reached jsx text (seen ++ [entry] ++ trivia ++ [later]) s rest)
    (htrivia : ∀ entry ∈ trivia, entry.1.kind.isTrivia = true)
    (hkind : later.1.kind.isTrivia = false) :
    (later.1.text.head? = some '/' → later.1.kind =
      if entry.1.text.getLast? = some '}' ∨ entry.1.text ∈ Word.expressionKeywords then .regex
      else .punctuator) ∧
    (later.1.text.head? = some '<' → later.1.kind =
      if jsx = true ∧ later.1.text = ['<'] ∧
        (entry.1.text.getLast? = some '}' ∨ entry.1.text ∈ Word.expressionKeywords) then .jsxMark
      else .punctuator) := by
  constructor
  · intro hslash
    rw [h.slash_behind hleaves.script.2 htrivia hkind hslash, hleaves.expressionMayFollow]
    simp
  · intro hless
    rw [h.less_behind hleaves.script.2 htrivia hkind hless, hleaves.expressionMayFollow]
    simp [and_comm]

/-- Behind a point and trivia, a name is no control keyword. -/
theorem Reached.last_of_property {point entry : Entry}
    (h : Reached jsx text (seen ++ [point] ++ trivia ++ [entry]) s rest)
    (hpoint : point.1.isPoint = true)
    (htrivia : ∀ entry ∈ trivia, entry.1.kind.isTrivia = true)
    (hname : entry.1.kind = .identifier) : entry.2.last = .token entry.1.text := by
  obtain ⟨s', _, hreached, hleaves⟩ := h.leavesName (.inl hname)
  have hbefore : s'.last.isPoint = true := by
    rw [hreached.remembers.point hleaves.script.1,
      head?_significant htrivia (isTrivia_of_isPoint hpoint)]
    exact hpoint
  rw [hleaves.last]
  exact nameLandmark_of_isPoint hbefore _

end Runs

/-! ## Signs behind names -/

/-- Tokens that follow each other do so in the trace. -/
theorem exists_trace_of_tokens {jsx : Bool} {text : Text} {before trivia after : List Token}
    {name token : Token} (h : text.tokens jsx = before ++ name :: (trivia ++ token :: after)) :
    ∃ seen entry blanks later more,
      text.trace jsx = seen ++ [entry] ++ blanks ++ [later] ++ more ∧ entry.1 = name ∧
        blanks.map Prod.fst = trivia ∧ later.1 = token := by
  obtain ⟨seen, rest, htrace, -, hrest⟩ := List.map_eq_append_iff.1 h
  obtain ⟨entry, rest, rfl, hname, hrest⟩ := List.map_eq_cons_iff.1 hrest
  obtain ⟨blanks, rest, rfl, hblanks, hrest⟩ := List.map_eq_append_iff.1 hrest
  obtain ⟨later, more, rfl, htoken, -⟩ := List.map_eq_cons_iff.1 hrest
  exact ⟨seen, entry, blanks, later, more, by simp [htrace], hname, hblanks, htoken⟩

/-- Behind a name that is no keyword which an expression may follow, and behind any private name, a
    slash that begins no comment is a punctuator, and a `<` opens no tag, unless the spelling of the
    name ends in a brace: there the slash begins a regular expression, and with JSX a `<` that is no
    longer punctuator opens a tag.  Only a name that is spelled with an escape ends so. -/
theorem sign_behind_name {jsx : Bool} {text : Text} {before trivia after : List Token}
    {name token : Token}
    (htokens : text.tokens jsx = before ++ name :: (trivia ++ token :: after))
    (hname : name.kind = .identifier ∧ name.text ∉ Word.expressionKeywords ∨
      name.kind = .privateName)
    (htrivia : ∀ token ∈ trivia, token.kind.isTrivia = true)
    (hkind : token.kind.isTrivia = false) :
    (token.text.head? = some '/' →
      if name.text.getLast? = some '}' then token.kind = .regex
      else token.kind = .punctuator ∧ token.text ∈ [['/'], ['/', '=']]) ∧
    (token.text.head? = some '<' → token.kind =
      if jsx = true ∧ token.text = ['<'] ∧ name.text.getLast? = some '}' then .jsxMark
      else .punctuator) ∧
    ('\\' ∉ name.text → name.text.getLast? ≠ some '}') := by
  have htoken : token ∈ text.tokens jsx := by simp [htokens]
  obtain ⟨seen, entry, blanks, later, more, htrace, rfl, rfl, rfl⟩ :=
    exists_trace_of_tokens htokens
  obtain ⟨_, hreached⟩ := reached_of_trace_eq htrace
  obtain ⟨_, _, hbefore⟩ := hreached.of_append
  obtain ⟨_, _, hentry⟩ := hbefore.of_append
  have hsort : entry.1.kind = .identifier ∨ entry.1.kind = .privateName := hname.imp And.left id
  obtain ⟨_, _, _, hleaves⟩ := hentry.leavesName hsort
  have hword : entry.1.text ∉ Word.expressionKeywords :=
    hname.elim And.right hleaves.keyword
  have hblanks : ∀ entry ∈ blanks, entry.1.kind.isTrivia = true :=
    fun entry hmem => htrivia _ (List.mem_map_of_mem hmem)
  obtain ⟨hslash, hless⟩ := hleaves.sign_behind hreached hblanks hkind
  simp only [hword, or_false] at hslash hless
  refine ⟨fun hhead => ?_, hless, fun hescape hlast => ?_⟩
  · rw [hslash hhead]
    split
    · rfl
    · next hlast =>
      refine ⟨rfl, mem_divisions_of_mem_tokens htoken ?_ hhead⟩
      rw [hslash hhead, if_neg hlast]
  · exact hleaves.escape hescape (List.mem_of_getLast? hlast)

/-- A name spelled with an escape without braces, and a blank: the slash divides. -/
theorem sign_behind_name_division :
    ∃ token ∈ Text.tokens true "\\u0061 /b/g".toList,
      token.text.head? = some '/' ∧ token.kind = .punctuator := by
  have htokens : Text.tokens true "\\u0061 /b/g".toList =
      [] ++ ⟨.identifier, "\\u0061".toList⟩ :: ([⟨.whitespace, [' ']⟩] ++ ⟨.punctuator, ['/']⟩ ::
        [⟨.identifier, ['b']⟩, ⟨.punctuator, ['/']⟩, ⟨.identifier, ['g']⟩]) := by
    decide +kernel
  have hslash := (sign_behind_name htokens (.inl (by decide)) (by decide) rfl).1 rfl
  exact ⟨⟨.punctuator, ['/']⟩, by decide +kernel, rfl, hslash.1⟩

/-- A slash behind a name is not always a punctuator: here the name is spelled with an escape in
    braces. -/
theorem regex_behind_escape :
    ¬ ∀ (jsx : Bool) (text : Text) (before after : List Token) (name token : Token),
      text.tokens jsx = before ++ name :: token :: after →
      name.kind = .identifier → name.text ∉ Word.expressionKeywords →
      token.kind.isTrivia = false → token.text.head? = some '/' → token.kind = .punctuator := by
  intro h
  have htokens : Text.tokens true "\\u\x7b61\x7d/b/g".toList =
      [] ++ ⟨.identifier, "\\u\x7b61\x7d".toList⟩ :: ⟨.regex, "/b/g".toList⟩ :: [] := by
    decide +kernel
  cases h true _ _ _ _ _ htokens rfl (by decide) rfl rfl

/-- Behind the point of a property access, a name that is spelled without escapes is no control
    keyword.  Still a slash behind it that begins no comment begins a regular expression if an
    expression may follow the keyword of that name, and only then; so with a `<` and tags; and a
    `++` or `--` behind it on the same line is behind its operand only for the other names, so that
    a slash behind that one, again, begins a regular expression or is a punctuator. -/
theorem sign_behind_property {jsx : Bool} {text : Text} {seen blanks trivia later : List Entry}
    {point name token : Token} {atPoint atName atToken : Context}
    (htrace : text.trace jsx = seen ++ [(point, atPoint)] ++ blanks ++ [(name, atName)] ++ trivia ++
      [(token, atToken)] ++ later)
    (hpoint : point.isPoint = true) (hname : name.kind = .identifier) (hescape : '\\' ∉ name.text)
    (hblanks : ∀ entry ∈ blanks, entry.1.kind.isTrivia = true)
    (htrivia : ∀ entry ∈ trivia, entry.1.kind.isTrivia = true)
    (hkind : token.kind.isTrivia = false) :
    atName.last = .token name.text ∧
    (token.text.head? = some '/' → token.kind =
      if name.text ∈ Word.expressionKeywords then .regex else .punctuator) ∧
    (token.text.head? = some '<' → token.kind =
      if jsx = true ∧ token.text = ['<'] ∧ name.text ∈ Word.expressionKeywords then .jsxMark
      else .punctuator) ∧
    (token.text ∈ updates → (∀ entry ∈ trivia, ∀ c ∈ entry.1.text, isLineEnd c = false) →
      token.kind = .punctuator ∧
      atToken.last =
        (if name.text ∈ Word.expressionKeywords then .prefixUpdate else .postfixUpdate) ∧
      ∀ more slash atSlash rest, later = more ++ [(slash, atSlash)] ++ rest →
        (∀ entry ∈ more, entry.1.kind.isTrivia = true) → slash.kind.isTrivia = false →
        slash.text.head? = some '/' →
        slash.kind = if name.text ∈ Word.expressionKeywords then .regex else .punctuator) := by
  obtain ⟨_, hreached⟩ := reached_of_trace_eq htrace
  obtain ⟨_, _, hbefore⟩ := hreached.of_append
  obtain ⟨_, _, hentry⟩ := hbefore.of_append
  obtain ⟨_, _, _, hleaves⟩ := hentry.leavesName (.inl hname)
  have hlast : name.text.getLast? ≠ some '}' :=
    fun hbrace => hleaves.escape hescape (List.mem_of_getLast? hbrace)
  obtain ⟨hslash, hless⟩ := hleaves.sign_behind hreached htrivia hkind
  simp only [hlast, false_or] at hslash hless
  refine ⟨hentry.last_of_property hpoint hblanks hname, hslash, hless, fun hupdate hline => ?_⟩
  obtain ⟨hpunctuator, hscript, hoperand⟩ :=
    hreached.update_behind hleaves.script.2 htrivia hline hkind hupdate
  have hmark : atToken.last =
      if name.text ∈ Word.expressionKeywords then .prefixUpdate else .postfixUpdate := by
    rw [hoperand, hleaves.operandBefore]
    by_cases hword : name.text ∈ Word.expressionKeywords <;> simp [hword]
  refine ⟨hpunctuator, hmark, ?_⟩
  rintro more slash atSlash rest rfl hmore hother hhead
  simp only [← List.append_assoc] at htrace
  obtain ⟨_, hafter⟩ := reached_of_trace_eq htrace
  have hkindSlash := hafter.slash_behind hscript hmore hother hhead
  rw [hkindSlash, hmark]
  split <;> rfl

/-- A `++` behind a property: the slash behind it divides. -/
theorem sign_behind_property_update :
    ∃ token ∈ Text.tokens true "a.b++ /c".toList,
      token.text.head? = some '/' ∧ token.kind = .punctuator := by
  let trace := Text.trace true "a.b++ /c".toList
  have htrace : trace = trace.take 1 ++ [(⟨.punctuator, ['.']⟩, contextAfter {} (trace.take 2))] ++
      [] ++ [(⟨.identifier, ['b']⟩, contextAfter {} (trace.take 3))] ++ [] ++
      [(⟨.punctuator, ['+', '+']⟩, contextAfter {} (trace.take 4))] ++ trace.drop 4 := by
    decide +kernel
  have hlater : trace.drop 4 = [(⟨.whitespace, [' ']⟩, contextAfter {} (trace.take 5))] ++
      [(⟨.punctuator, ['/']⟩, contextAfter {} (trace.take 6))] ++ trace.drop 6 := by
    decide +kernel
  obtain ⟨-, -, -, hupdate⟩ :=
    sign_behind_property htrace rfl rfl (by decide) (by simp) (by simp) rfl
  obtain ⟨-, -, hslash⟩ := hupdate (by decide) (by simp)
  have hkind := hslash _ _ _ _ hlater (by decide) rfl rfl
  exact ⟨⟨.punctuator, ['/']⟩, by decide +kernel, rfl, hkind⟩

/-- A slash behind a property is not always a punctuator: here an expression may follow the keyword
    that the property is called like. -/
theorem regex_behind_property :
    ¬ ∀ (jsx : Bool) (text : Text) (before after : List Token) (point name token : Token),
      text.tokens jsx = before ++ point :: name :: token :: after →
      point.isPoint = true → name.kind = .identifier → '\\' ∉ name.text →
      token.kind.isTrivia = false → token.text.head? = some '/' → token.kind = .punctuator := by
  intro h
  have htokens : Text.tokens true "a.return/b/g".toList =
      [⟨.identifier, ['a']⟩] ++ ⟨.punctuator, ['.']⟩ :: ⟨.identifier, "return".toList⟩ ::
        ⟨.regex, "/b/g".toList⟩ :: [] := by
    decide +kernel
  cases h true _ _ _ _ _ _ htokens rfl rfl (by decide) rfl rfl

end SyntaxColor
