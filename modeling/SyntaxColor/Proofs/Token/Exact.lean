/-
  Steps that read exactly a lexeme.  Each statement puts a lexeme at the start of a text, with a
  rest that cannot go on with it, and says what the step there is.

  A step is what one rule reads, once it is known that the rules before it read nothing
  (`step_eq_of_rules`); that is told by the first character.
-/
import SyntaxColor.Proofs.Lexeme.Exact
import SyntaxColor.Proofs.Token.Run

namespace SyntaxColor

/-! ## Which rules read nothing -/

section Refused

variable {jsx : Bool} {s : Context} {c : Char}

theorem regex_eq_none (h : c ≠ '/') (rest : Text) : Rule.regex s (c :: rest) = none := by
  have hregex : Lexeme.regex (c :: rest) = 0 := by simp [Lexeme.regex, h]
  simp [Rule.regex, Step.ofLength?, hregex]

theorem templateRest_eq_none (h : c ≠ '}') (rest : Text) :
    Rule.templateRest s (c :: rest) = none := by
  simp [Rule.templateRest, h]

theorem jsxHoleEnd_eq_none (h : c ≠ '}') (rest : Text) :
    Rule.jsxHoleEnd s (c :: rest) = none := by
  simp [Rule.jsxHoleEnd, h]

theorem tagStart_eq_none (h : c ≠ '<') (rest : Text) :
    Rule.tagStart jsx s (c :: rest) = none := by
  cases hn : Lexeme.punctuator (c :: rest) <;> simp [Rule.tagStart, hn, h]

theorem punctuator_eq_none (h : ∀ mark ∈ Lexeme.punctuators, mark.head? ≠ some c)
    (rest : Text) : Rule.punctuator s (c :: rest) = none := by
  simp [Rule.punctuator, Step.ofLength?, Lexeme.punctuator_eq_zero h]

theorem name_eq_none (h : Unicode.beginsName c = false) (hother : c ∉ ['\\', '#'])
    (rest : Text) : Rule.name s (c :: rest) = none := by
  simp only [List.mem_cons, List.not_mem_nil, or_false, not_or] at hother
  simp [Rule.name, Step.ofLength?, Lexeme.name, Lexeme.plainName, h, hother]

theorem string_eq_none (h : Lexeme.isQuote c = false) (rest : Text) :
    Rule.string s (c :: rest) = none := by
  simp [Rule.string, Step.ofLength?, Lexeme.string, h]

end Refused

/-! ## A step by the rule that reads -/

theorem step_eq_of_rules {jsx : Bool} {s : Context} {text : Text} (before after : List Rule)
    {rule : Rule} {step : Step} (hrules : s.region.rules jsx = before ++ rule :: after)
    (hbefore : before.findSome? (fun rule => rule s text) = none)
    (hrule : rule s text = some step) : s.step jsx text = step := by
  simp [Context.step, hrules, hbefore, hrule]

theorem ofLength?_eq_some {kind : Kind} {lexeme rest : Text} {next : Text → Context}
    {length : Nat} (hne : lexeme ≠ []) (hlength : length = lexeme.length) :
    Step.ofLength? kind length (lexeme ++ rest) next =
      some ⟨kind, lexeme.length, next lexeme⟩ := by
  subst hlength
  simp [Step.ofLength?, hne]

/-! ## Script -/

section Script

variable {jsx : Bool} {s : Context} {c : Char}

/-- The rules of script up to the one for punctuators. -/
def earlyRules (jsx : Bool) : List Rule :=
  [Rule.regex, Rule.templateRest, Rule.jsxHoleEnd, Rule.tagStart jsx, Rule.punctuator]

theorem findSome?_earlyRules (jsx : Bool) (s : Context) {c : Char} (hc : c ∉ ['/', '}', '<'])
    (hmark : ∀ mark ∈ Lexeme.punctuators, mark.head? ≠ some c) (rest : Text) :
    (earlyRules jsx).findSome? (fun rule => rule s (c :: rest)) = none := by
  simp only [List.mem_cons, List.not_mem_nil, or_false, not_or] at hc
  simp [earlyRules, regex_eq_none hc.1, templateRest_eq_none hc.2.1, jsxHoleEnd_eq_none hc.2.1,
    tagStart_eq_none hc.2.2, punctuator_eq_none hmark]

theorem head?_ne_of_mem_punctuators {p : Char → Bool}
    (htable : (Lexeme.punctuators.any fun mark => mark.head?.any p) = false) (hc : p c = true) :
    ∀ mark ∈ Lexeme.punctuators, mark.head? ≠ some c := by
  intro mark hmark hhead
  have := List.any_eq_false.1 htable mark hmark
  simp [hhead, hc] at this

theorem rules_eq_early (hregion : s.region.isJsx = false) :
    s.region.rules jsx = earlyRules jsx ++
      ([Rule.name, Rule.string, Rule.number, Rule.template] ++ Rule.trivia) := by
  rw [Region.rules_of_not_isJsx hregion]
  rfl

/-- A name of letters. -/
theorem step_name (hregion : s.region.isJsx = false) {letters rest : Text} (hne : letters ≠ [])
    (hletters : ∀ c ∈ letters, c.isAlpha = true)
    (hrest : ∀ c, rest.head? = some c → Unicode.continuesName c = false ∧ c ≠ '\\') :
    s.step jsx (letters ++ rest) =
      ⟨.identifier, letters.length, Rule.afterName s letters⟩ := by
  have hname := Lexeme.name_append hne hletters hrest
  obtain ⟨c, letters, rfl⟩ := List.exists_cons_of_ne_nil hne
  have hc := hletters c (by simp)
  have hother : c ∉ ['/', '}', '<'] := by
    simp [ne_of_isAlpha hc]
  have hhash : ¬ (c :: letters ++ rest).head? = some '#' := by
    simpa using ne_of_isAlpha hc rfl
  refine step_eq_of_rules (earlyRules jsx) _ (rules_eq_early hregion)
    (findSome?_earlyRules jsx s hother (head?_ne_of_mem_punctuators (by decide) hc) _) ?_
  rw [Rule.name, if_neg hhash]
  exact ofLength?_eq_some hne hname

/-- A decimal integer without a leading zero. -/
theorem step_number (hregion : s.region.isJsx = false) {d : Char} {ds rest : Text}
    (hd : d.isDigit = true) (hzero : d ≠ '0') (hds : ∀ e ∈ ds, e.isDigit = true)
    (hrest : ∀ c, rest.head? = some c → c.isDigit = false ∧ c ∉ ['_', '.', 'n', 'e', 'E']) :
    s.step jsx (d :: ds ++ rest) =
      ⟨.number, (d :: ds).length, s.afterOperand (d :: ds)⟩ := by
  have hother : d ∉ ['/', '}', '<'] := by
    simp [ne_of_isDigit hd]
  have hearly := findSome?_earlyRules jsx s hother
    (head?_ne_of_mem_punctuators (by decide) hd) (ds ++ rest)
  have hname : Rule.name s (d :: (ds ++ rest)) = none :=
    name_eq_none (beginsName_of_isDigit hd) (by simp [ne_of_isDigit hd]) _
  have hstring : Rule.string s (d :: (ds ++ rest)) = none :=
    string_eq_none (by simp [Lexeme.isQuote, ne_of_isDigit hd]) _
  refine step_eq_of_rules (earlyRules jsx ++ [Rule.name, Rule.string])
    (Rule.template :: Rule.trivia) (rules_eq_early hregion) ?_
    (ofLength?_eq_some (List.cons_ne_nil _ _) (Lexeme.number_append hd hzero hds hrest))
  simp [List.findSome?_append, hearly, hname, hstring]

/-- A string in single quotes without escapes. -/
theorem step_string (hregion : s.region.isJsx = false) {content : Text} (rest : Text)
    (hcontent : ∀ c ∈ content, c ∉ ['\'', '\\', '\r', '\n']) :
    s.step jsx ('\'' :: content ++ ['\''] ++ rest) =
      ⟨.string, ('\'' :: content ++ ['\'']).length,
        s.afterOperand ('\'' :: content ++ ['\''])⟩ := by
  have hearly := findSome?_earlyRules jsx s (c := '\'') (by decide) (by decide)
    (content ++ '\'' :: rest)
  have hname : Rule.name s ('\'' :: (content ++ '\'' :: rest)) = none :=
    name_eq_none (by decide) (by decide) _
  have hstring : Lexeme.string ('\'' :: content ++ ['\''] ++ rest) =
      ('\'' :: content ++ ['\'']).length := by
    have := Lexeme.string_append rest (by simp) hcontent
    simpa using this
  refine step_eq_of_rules (earlyRules jsx ++ [Rule.name])
    ([Rule.number, Rule.template] ++ Rule.trivia) (rules_eq_early hregion) ?_
    (ofLength?_eq_some (by simp) hstring)
  simpa [List.findSome?_append, hname] using hearly

/-- The first piece of a template literal. -/
theorem step_template (hregion : s.region.isJsx = false) (rest : Text) :
    s.step jsx ('\x60' :: rest) =
      if (Lexeme.templateBody rest).ending = .hole then
        ⟨.templateHead, (Lexeme.templateBody rest).length + 1, s.openTemplateHole⟩
      else ⟨.template, (Lexeme.templateBody rest).length + 1,
        s.afterOperand (('\x60' :: rest).take ((Lexeme.templateBody rest).length + 1))⟩ := by
  have hearly := findSome?_earlyRules jsx s (c := '\x60') (by decide) (by decide)
    rest
  have hname : Rule.name s ('\x60' :: rest) = none := name_eq_none (by decide) (by decide) _
  have hstring : Rule.string s ('\x60' :: rest) = none := string_eq_none (by decide) _
  have hnumber : Rule.number s ('\x60' :: rest) = none := rfl
  refine step_eq_of_rules (earlyRules jsx ++ [Rule.name, Rule.string, Rule.number])
    Rule.trivia (rules_eq_early hregion) ?_ ?_
  · simp [List.findSome?_append, hearly, hname, hstring, hnumber]
  · simp only [Rule.template, Lexeme.templatePiece?, Lexeme.TemplatePiece.after]
    cases (Lexeme.templateBody rest).ending <;> simp

/-- A punctuator of one character that is no slash and no `<`.  A brace must not close a
    substitution or an expression within JSX. -/
theorem step_punctuator (hregion : s.region.isJsx = false) (hc : c ∉ ['/', '<']) {rest : Text}
    (hlength : Lexeme.punctuator (c :: rest) = 1)
    (hbrace : c = '}' → s.region ≠ .templateHole s.openBraces.length ∧
      s.region ≠ .jsxHole s.openBraces.length) :
    s.step jsx (c :: rest) = ⟨.punctuator, 1, s.afterPunctuator [c]⟩ := by
  simp only [List.mem_cons, List.not_mem_nil, or_false, not_or] at hc
  have hrest : Rule.templateRest s (c :: rest) = none := by
    rw [Rule.templateRest, if_neg]
    rintro ⟨hhole, hhead⟩
    exact (hbrace (by simpa using hhead)).1 hhole
  have hend : Rule.jsxHoleEnd s (c :: rest) = none := by
    rw [Rule.jsxHoleEnd, if_neg]
    rintro ⟨hhole, hhead⟩
    exact (hbrace (by simpa using hhead)).2 hhole
  refine step_eq_of_rules
    [Rule.regex, Rule.templateRest, Rule.jsxHoleEnd, Rule.tagStart jsx]
    ([Rule.name, Rule.string, Rule.number, Rule.template] ++ Rule.trivia)
    (rules_eq_early hregion) ?_ ?_
  · simp [regex_eq_none hc.1, hrest, hend, tagStart_eq_none hc.2]
  · simp [Rule.punctuator, Step.ofLength?, hlength]

/-- The `<` of a tag. -/
theorem step_tagStart (hregion : s.region.isJsx = false)
    (hlast : s.last.expressionMayFollow = true) {rest : Text}
    (hlength : Lexeme.punctuator ('<' :: rest) = 1) :
    s.step true ('<' :: rest) = ⟨.jsxMark, 1, s.openTag⟩ := by
  refine step_eq_of_rules [Rule.regex, Rule.templateRest, Rule.jsxHoleEnd]
    ([Rule.punctuator, Rule.name, Rule.string, Rule.number, Rule.template] ++ Rule.trivia)
    (rules_eq_early hregion) ?_ ?_
  · simp [regex_eq_none, templateRest_eq_none, jsxHoleEnd_eq_none]
  · simp [Rule.tagStart, hlast, hlength]

/-- The piece of a template literal behind a substitution. -/
theorem step_templateRest (hregion : s.region = .templateHole s.openBraces.length) (rest : Text) :
    s.step jsx ('}' :: rest) =
      if (Lexeme.templateBody rest).ending = .hole then
        ⟨.templateMiddle, (Lexeme.templateBody rest).length + 1,
          (s.seen .templateHole).withOperand false⟩
      else ⟨.templateTail, (Lexeme.templateBody rest).length + 1,
        s.leave.afterOperand (('}' :: rest).take ((Lexeme.templateBody rest).length + 1))⟩ := by
  refine step_eq_of_rules [Rule.regex]
    ([Rule.jsxHoleEnd, Rule.tagStart jsx, Rule.punctuator, Rule.name, Rule.string,
      Rule.number, Rule.template] ++ Rule.trivia)
    (rules_eq_early (by rw [hregion]; rfl)) ?_ ?_
  · simp [regex_eq_none]
  · simp only [Rule.templateRest, hregion, Lexeme.templatePiece?, Lexeme.TemplatePiece.after]
    cases (Lexeme.templateBody rest).ending <;> simp

/-- The brace that closes an expression within JSX. -/
theorem step_jsxHoleEnd (hregion : s.region = .jsxHole s.openBraces.length) (rest : Text) :
    s.step jsx ('}' :: rest) = ⟨.jsxMark, 1, s.leave.seen (.token ['}'])⟩ := by
  refine step_eq_of_rules [Rule.regex, Rule.templateRest]
    ([Rule.tagStart jsx, Rule.punctuator, Rule.name, Rule.string,
      Rule.number, Rule.template] ++ Rule.trivia)
    (rules_eq_early (by rw [hregion]; rfl)) ?_ ?_
  · simp [regex_eq_none, Rule.templateRest, hregion]
  · simp [Rule.jsxHoleEnd, hregion]

end Script

/-! ## JSX -/

section Jsx

variable {jsx : Bool} {s : Context}

/-- The context after a mark in a tag. -/
def Context.afterJsxMark (s : Context) (c : Char) : Context :=
  match c with
  | '<' => s.openTag
  | '>' => s.closeTag
  | '{' => s.openJsxHole
  | '/' => s.slashInTag
  | c => s.seen (.token [c])

/-- A mark in a tag, which is not the first of two characters that begin a comment. -/
theorem step_jsxMark (hregion : s.region = .jsxTag ∨ s.region = .jsxClosingTag) {c : Char}
    {rest : Text} (hlength : Lexeme.jsxMark (c :: rest) = 1) :
    s.step jsx (c :: rest) = ⟨.jsxMark, 1, s.afterJsxMark c⟩ := by
  refine step_eq_of_rules [] ([Rule.jsxName, Rule.jsxValue] ++ Rule.trivia)
    (Region.rules_of_tag hregion jsx) rfl ?_
  obtain ⟨-, c', rest', htext, hc⟩ :=
    Lexeme.eq_of_jsxMark_ne_zero (hlength ▸ Nat.one_ne_zero)
  obtain ⟨rfl, rfl⟩ := List.cons.inj htext
  simp only [Rule.jsxMark, Step.ofLength?, hlength]
  simp only [List.mem_cons, List.not_mem_nil, or_false] at hc
  obtain rfl | rfl | rfl | rfl | rfl | rfl | rfl | rfl := hc <;> rfl

/-- The name of a tag or an attribute. -/
theorem step_jsxName (hregion : s.region = .jsxTag ∨ s.region = .jsxClosingTag)
    {letters rest : Text} (hne : letters ≠ []) (hletters : ∀ c ∈ letters, c.isAlpha = true)
    (hrest : ∀ c, rest.head? = some c → Lexeme.isJsxNamePart c = false) :
    s.step jsx (letters ++ rest) = ⟨.jsxName, letters.length, s.seen (.token letters)⟩ := by
  have hname := Lexeme.jsxName_append hne hletters hrest
  obtain ⟨c, letters, rfl⟩ := List.exists_cons_of_ne_nil hne
  have hc := hletters c (by simp)
  have hmark : Rule.jsxMark s (c :: letters ++ rest) = none := by
    simp [Rule.jsxMark, Step.ofLength?, Lexeme.jsxMark, ne_of_isAlpha hc]
  refine step_eq_of_rules [Rule.jsxMark] ([Rule.jsxValue] ++ Rule.trivia)
    (Region.rules_of_tag hregion jsx) ?_ (ofLength?_eq_some hne hname)
  simpa using hmark

/-- The value of an attribute in double quotes. -/
theorem step_jsxValue (hregion : s.region = .jsxTag ∨ s.region = .jsxClosingTag)
    {content : Text} (rest : Text) (hcontent : ∀ c ∈ content, c ≠ '"') :
    s.step jsx ('"' :: content ++ ['"'] ++ rest) =
      ⟨.jsxValue, ('"' :: content ++ ['"']).length,
        s.seen (.token ('"' :: content ++ ['"']))⟩ := by
  have hvalue : Lexeme.jsxValue ('"' :: content ++ ['"'] ++ rest) =
      ('"' :: content ++ ['"']).length := by
    have := Lexeme.throughQuote_append rest hcontent
    simp [Lexeme.jsxValue, Lexeme.isQuote, this]
  have hmark : Rule.jsxMark s ('"' :: content ++ ['"'] ++ rest) = none := rfl
  have hname : Rule.jsxName s ('"' :: content ++ ['"'] ++ rest) = none := by
    have hbegins : Unicode.beginsName '"' = false := by decide
    simp [Rule.jsxName, Step.ofLength?, Lexeme.jsxName, hbegins]
  refine step_eq_of_rules [Rule.jsxMark, Rule.jsxName] Rule.trivia
    (Region.rules_of_tag hregion jsx) ?_ (ofLength?_eq_some (by simp) hvalue)
  simp only [List.findSome?_cons, hmark, hname, List.findSome?_nil]

/-- A blank before the name of an attribute. -/
theorem step_blank (hregion : s.region = .jsxTag ∨ s.region = .jsxClosingTag) {c : Char}
    (hc : c.isAlpha = true) (rest : Text) :
    s.step jsx (' ' :: c :: rest) = ⟨.whitespace, 1, s⟩ := by
  have hwhitespace : Lexeme.whitespace (' ' :: c :: rest) = 1 := by
    have hspace : Lexeme.isBlank ' ' = true := by decide
    simp [Lexeme.whitespace, Text.runLength, hspace, isBlank_of_isAlpha hc]
  refine step_eq_of_rules Rule.tag
    [Rule.lineBreak, Rule.blockComment, Rule.lineComment]
    (Region.rules_of_tag hregion jsx) ?_ ?_
  · rfl
  · simp [Rule.whitespace, Step.ofLength?, hwhitespace]

/-- Text between tags, before a tag or an expression in braces. -/
theorem step_jsxContent (hregion : s.region = .jsxChildren) {content rest : Text}
    (hne : content ≠ []) (hcontent : ∀ c ∈ content, Lexeme.isJsxDelimiter c = false)
    (hrest : ∀ c, rest.head? = some c → Lexeme.isJsxDelimiter c = true) :
    s.step jsx (content ++ rest) =
      ⟨.jsxContent, content.length, s.seen (.token content)⟩ := by
  have hlength : Lexeme.jsxContent (content ++ rest) = content.length :=
    Text.runLength_append (by simpa using hcontent) (by simpa using hrest)
  exact step_eq_of_rules [] ([Rule.jsxChild] ++ Rule.trivia)
    (by rw [hregion]; rfl) rfl (ofLength?_eq_some hne hlength)

/-- A tag or an expression in braces between tags. -/
theorem step_jsxChild (hregion : s.region = .jsxChildren) {c : Char} {rest : Text} {step : Step}
    (hc : Lexeme.isJsxDelimiter c = true) (h : Rule.jsxChild s (c :: rest) = some step) :
    s.step jsx (c :: rest) = step := by
  have hcontent : Rule.jsxContent s (c :: rest) = none := by
    simp [Rule.jsxContent, Step.ofLength?, Lexeme.jsxContent, Text.runLength, hc]
  refine step_eq_of_rules [Rule.jsxContent] Rule.trivia
    (by rw [hregion]; rfl) ?_ h
  simpa using hcontent

end Jsx

end SyntaxColor
