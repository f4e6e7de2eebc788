/-
  A single step of the lexer.  `Takes` lists what a step can be, one case for each way in which a
  rule reads a token, together with all that the rule asks of the context and of the text.  Each
  case is of a single kind of tokens, so that the kind of a token rules out all cases but its own.

  `takes_step`: every step is one of these, so what holds of each of them holds of every step.
  `Takes.length_bounds`: a step reads at least one character, and none behind the text.
-/
import SyntaxColor.Proofs.Lexeme.Length
import SyntaxColor.Token.Trace

namespace SyntaxColor

/-- What a step can be: a token that a rule of the region reads, or a stray character. -/
inductive Takes (jsx : Bool) (s : Context) : Text → Step → Prop
  | regex {text : Text} (hregion : s.region.isJsx = false)
      (hlast : s.last.expressionMayFollow = true) (hlength : Lexeme.regex text ≠ 0) :
      Takes jsx s text
        ⟨.regex, Lexeme.regex text, s.afterOperand (text.take (Lexeme.regex text))⟩
  | templateMiddle {rest : Text} (hregion : s.region = .templateHole s.openBraces.length)
      (hending : (Lexeme.templateBody rest).ending = .hole) :
      Takes jsx s ('}' :: rest)
        ⟨.templateMiddle, (Lexeme.templateBody rest).length + 1,
          (s.seen .templateHole).withOperand false⟩
  | templateTail {rest : Text} (hregion : s.region = .templateHole s.openBraces.length)
      (hending : (Lexeme.templateBody rest).ending ≠ .hole) :
      Takes jsx s ('}' :: rest)
        ⟨.templateTail, (Lexeme.templateBody rest).length + 1,
          s.leave.afterOperand (('}' :: rest).take ((Lexeme.templateBody rest).length + 1))⟩
  | jsxHoleEnd {rest : Text} (hregion : s.region = .jsxHole s.openBraces.length) :
      Takes jsx s ('}' :: rest) ⟨.jsxMark, 1, s.leave.seen (.token ['}'])⟩
  | tagStart {rest : Text} (hregion : s.region.isJsx = false) (hjsx : jsx = true)
      (hlast : s.last.expressionMayFollow = true) :
      Takes jsx s ('<' :: rest) ⟨.jsxMark, 1, s.openTag⟩
  /-- A punctuator that no rule before the one for punctuators reads as something else. -/
  | punctuator {text : Text} (hregion : s.region.isJsx = false)
      (hregex : s.last.expressionMayFollow = true → Lexeme.regex text = 0)
      (hhole : text.head? = some '}' →
        s.region ≠ .templateHole s.openBraces.length ∧ s.region ≠ .jsxHole s.openBraces.length)
      (htag : jsx = true → s.last.expressionMayFollow = true →
        text.take (Lexeme.punctuator text) ≠ ['<'])
      (hlength : Lexeme.punctuator text ≠ 0) :
      Takes jsx s text
        ⟨.punctuator, Lexeme.punctuator text,
          s.afterPunctuator (text.take (Lexeme.punctuator text))⟩
  | identifier {text : Text} (hregion : s.region.isJsx = false)
      (hlength : Lexeme.name text ≠ 0) (hhead : text.head? ≠ some '#') :
      Takes jsx s text
        ⟨.identifier, Lexeme.name text, Rule.afterName s (text.take (Lexeme.name text))⟩
  | privateName {text : Text} (hregion : s.region.isJsx = false)
      (hlength : Lexeme.name text ≠ 0) (hhead : text.head? = some '#') :
      Takes jsx s text
        ⟨.privateName, Lexeme.name text, Rule.afterName s (text.take (Lexeme.name text))⟩
  | string {text : Text} (hregion : s.region.isJsx = false) (hlength : Lexeme.string text ≠ 0) :
      Takes jsx s text
        ⟨.string, Lexeme.string text, s.afterOperand (text.take (Lexeme.string text))⟩
  | number {text : Text} (hregion : s.region.isJsx = false) (hlength : Lexeme.number text ≠ 0) :
      Takes jsx s text
        ⟨.number, Lexeme.number text, s.afterOperand (text.take (Lexeme.number text))⟩
  | templateHead {rest : Text} (hregion : s.region.isJsx = false)
      (hending : (Lexeme.templateBody rest).ending = .hole) :
      Takes jsx s ('\x60' :: rest)
        ⟨.templateHead, (Lexeme.templateBody rest).length + 1, s.openTemplateHole⟩
  | template {rest : Text} (hregion : s.region.isJsx = false)
      (hending : (Lexeme.templateBody rest).ending ≠ .hole) :
      Takes jsx s ('\x60' :: rest)
        ⟨.template, (Lexeme.templateBody rest).length + 1,
          s.afterOperand (('\x60' :: rest).take ((Lexeme.templateBody rest).length + 1))⟩
  | openTag {rest : Text} (hregion : s.region = .jsxTag ∨ s.region = .jsxClosingTag) :
      Takes jsx s ('<' :: rest) ⟨.jsxMark, 1, s.openTag⟩
  | closeTag {rest : Text} (hregion : s.region = .jsxTag ∨ s.region = .jsxClosingTag) :
      Takes jsx s ('>' :: rest) ⟨.jsxMark, 1, s.closeTag⟩
  | openHole {rest : Text} (hregion : s.region = .jsxTag ∨ s.region = .jsxClosingTag) :
      Takes jsx s ('{' :: rest) ⟨.jsxMark, 1, s.openJsxHole⟩
  | slash {rest : Text} (hregion : s.region = .jsxTag ∨ s.region = .jsxClosingTag) :
      Takes jsx s ('/' :: rest) ⟨.jsxMark, 1, s.slashInTag⟩
  | otherMark {c : Char} {rest : Text}
      (hregion : s.region = .jsxTag ∨ s.region = .jsxClosingTag)
      (hmark : c ∈ ['.', ':', '=', '}']) :
      Takes jsx s (c :: rest) ⟨.jsxMark, 1, s.seen (.token [c])⟩
  | jsxName {text : Text} (hregion : s.region = .jsxTag ∨ s.region = .jsxClosingTag)
      (hlength : Lexeme.jsxName text ≠ 0) :
      Takes jsx s text
        ⟨.jsxName, Lexeme.jsxName text, s.seen (.token (text.take (Lexeme.jsxName text)))⟩
  | jsxValue {text : Text} (hregion : s.region = .jsxTag ∨ s.region = .jsxClosingTag)
      (hlength : Lexeme.jsxValue text ≠ 0) :
      Takes jsx s text
        ⟨.jsxValue, Lexeme.jsxValue text, s.seen (.token (text.take (Lexeme.jsxValue text)))⟩
  | jsxContent {text : Text} (hregion : s.region = .jsxChildren)
      (hlength : Lexeme.jsxContent text ≠ 0) :
      Takes jsx s text
        ⟨.jsxContent, Lexeme.jsxContent text,
          s.seen (.token (text.take (Lexeme.jsxContent text)))⟩
  | childTag {rest : Text} (hregion : s.region = .jsxChildren) :
      Takes jsx s ('<' :: rest) ⟨.jsxMark, 1, s.openTag⟩
  | childHole {rest : Text} (hregion : s.region = .jsxChildren) :
      Takes jsx s ('{' :: rest) ⟨.jsxMark, 1, s.openJsxHole⟩
  | whitespace {text : Text} (hlength : Lexeme.whitespace text ≠ 0) :
      Takes jsx s text ⟨.whitespace, Lexeme.whitespace text, s⟩
  | lineBreak {text : Text} (hlength : Lexeme.lineBreak text ≠ 0) :
      Takes jsx s text ⟨.lineBreak, Lexeme.lineBreak text, s.breakLine⟩
  | blockComment {text : Text} (hlength : Lexeme.blockComment text ≠ 0) :
      Takes jsx s text
        ⟨.blockComment, Lexeme.blockComment text,
          if (text.take (Lexeme.blockComment text)).any Text.isLineEnd then s.breakLine else s⟩
  | lineComment {text : Text} (hlength : Lexeme.lineComment text ≠ 0) :
      Takes jsx s text ⟨.lineComment, Lexeme.lineComment text, s.withOperand false⟩
  | stray {c : Char} {rest : Text} (hregion : s.region.isJsx = false)
      (hrules : ∀ rule ∈ s.region.rules jsx, rule s (c :: rest) = none) :
      Takes jsx s (c :: rest) ⟨.stray, 1, s.afterOperator [c]⟩
  | jsxStray {c : Char} {rest : Text} (hregion : s.region.isJsx = true)
      (hrules : ∀ rule ∈ s.region.rules jsx, rule s (c :: rest) = none) :
      Takes jsx s (c :: rest) ⟨.jsxStray, 1, s.afterOperator [c]⟩

/-! ## Each rule -/

namespace Lexeme

theorem punctuator_closeBrace (rest : Text) : punctuator ('}' :: rest) = 1 := rfl

theorem eq_of_templatePiece? {text : Text} {piece : TemplatePiece}
    (h : templatePiece? text = some piece) :
    ∃ c rest, text = c :: rest ∧ (c = '\x60' ∨ c = '}') ∧ piece = (templateBody rest).after 1 := by
  fun_cases templatePiece? text with
  | case1 c rest hc =>
    simp only [templatePiece?, hc, if_true, Option.some.injEq] at h
    exact ⟨c, rest, rfl, by simpa using hc, h.symm⟩
  | _ => simp_all [templatePiece?]

/-- A mark in a tag is one of eight characters. -/
theorem eq_of_jsxMark_ne_zero {text : Text} (h : jsxMark text ≠ 0) :
    jsxMark text = 1 ∧ ∃ c rest, text = c :: rest ∧
      c ∈ ['<', '>', '.', ':', '=', '{', '}', '/'] := by
  revert h
  fun_cases jsxMark text with
  | case3 c rest _ _ hc => exact fun _ => ⟨by simp, c, rest, rfl, hc⟩
  | _ => simp [*]

end Lexeme

section Rules

variable {jsx : Bool} {s : Context} {text : Text} {step : Step}

theorem takes_of_regex (hregion : s.region.isJsx = false) (h : Rule.regex s text = some step) :
    Takes jsx s text step := by
  unfold Rule.regex at h
  split at h
  · next hlast =>
    obtain ⟨hlength, rfl⟩ := Step.ofLength?_eq_some_iff.1 h
    exact .regex hregion hlast hlength
  · cases h

theorem takes_of_templateRest (h : Rule.templateRest s text = some step) :
    Takes jsx s text step := by
  unfold Rule.templateRest at h
  split at h
  · next hguard =>
    obtain ⟨hregion, hhead⟩ := hguard
    obtain ⟨piece, hpiece, rfl⟩ := Option.map_eq_some_iff.1 h
    obtain ⟨c, rest, rfl, _, rfl⟩ := Lexeme.eq_of_templatePiece? hpiece
    obtain rfl : c = '}' := by simpa using hhead
    dsimp only [Lexeme.TemplatePiece.after]
    split
    · next hending => exact .templateMiddle hregion hending
    · next hending => exact .templateTail hregion hending
  · cases h

theorem takes_of_jsxHoleEnd (h : Rule.jsxHoleEnd s text = some step) :
    Takes jsx s text step := by
  unfold Rule.jsxHoleEnd at h
  split at h
  · next hguard =>
    obtain ⟨hregion, hhead⟩ := hguard
    obtain ⟨rest, rfl⟩ := List.head?_eq_some_iff.1 hhead
    obtain rfl := Option.some.inj h
    exact .jsxHoleEnd hregion
  · cases h

theorem takes_of_tagStart (hregion : s.region.isJsx = false)
    (h : Rule.tagStart jsx s text = some step) : Takes jsx s text step := by
  unfold Rule.tagStart at h
  split at h
  · next hguard =>
    obtain ⟨hjsx, hlast, htake⟩ := hguard
    obtain ⟨rest, rfl⟩ : ∃ rest, text = '<' :: rest := by
      have := List.take_append_drop (Lexeme.punctuator text) text
      rw [htake] at this
      exact ⟨_, this.symm⟩
    obtain rfl := Option.some.inj h
    exact .tagStart hregion hjsx hlast
  · cases h

theorem regex_eq_zero_of_rule (h : Rule.regex s text = none)
    (hlast : s.last.expressionMayFollow = true) : Lexeme.regex text = 0 := by
  simpa [Rule.regex, hlast, Step.ofLength?] using h

theorem region_ne_of_rules (hrest : Rule.templateRest s text = none)
    (hend : Rule.jsxHoleEnd s text = none) (hhead : text.head? = some '}') :
    s.region ≠ .templateHole s.openBraces.length ∧ s.region ≠ .jsxHole s.openBraces.length := by
  obtain ⟨rest, rfl⟩ := List.head?_eq_some_iff.1 hhead
  constructor
  · intro hregion
    simp [Rule.templateRest, hregion, Lexeme.templatePiece?] at hrest
  · intro hregion
    simp [Rule.jsxHoleEnd, hregion] at hend

theorem takes_of_punctuator (hregion : s.region.isJsx = false)
    (hregex : Rule.regex s text = none) (hrest : Rule.templateRest s text = none)
    (hend : Rule.jsxHoleEnd s text = none) (htag : Rule.tagStart jsx s text = none)
    (h : Rule.punctuator s text = some step) : Takes jsx s text step := by
  obtain ⟨hlength, rfl⟩ := Step.ofLength?_eq_some_iff.1 h
  refine .punctuator hregion (regex_eq_zero_of_rule hregex) (region_ne_of_rules hrest hend) ?_
    hlength
  intro hjsx hlast htake
  simp [Rule.tagStart, hjsx, hlast, htake] at htag

theorem takes_of_name (hregion : s.region.isJsx = false) (h : Rule.name s text = some step) :
    Takes jsx s text step := by
  obtain ⟨hlength, rfl⟩ := Step.ofLength?_eq_some_iff.1 h
  split
  · next hhead => exact .privateName hregion hlength hhead
  · next hhead => exact .identifier hregion hlength hhead

theorem takes_of_template (hregion : s.region.isJsx = false)
    (hpunctuator : Rule.punctuator s text = none) (h : Rule.template s text = some step) :
    Takes jsx s text step := by
  obtain ⟨piece, hpiece, rfl⟩ := Option.map_eq_some_iff.1 h
  obtain ⟨c, rest, rfl, rfl | rfl, rfl⟩ := Lexeme.eq_of_templatePiece? hpiece
  · dsimp only [Lexeme.TemplatePiece.after]
    split
    · next hending => exact .templateHead hregion hending
    · next hending => exact .template hregion hending
  · -- A brace would have been read as a punctuator.
    simp [Rule.punctuator, Step.ofLength?, Lexeme.punctuator_closeBrace] at hpunctuator

theorem takes_of_jsxMark (hregion : s.region = .jsxTag ∨ s.region = .jsxClosingTag)
    (h : Rule.jsxMark s text = some step) : Takes jsx s text step := by
  obtain ⟨hlength, rfl⟩ := Step.ofLength?_eq_some_iff.1 h
  obtain ⟨hone, c, rest, rfl, hc⟩ := Lexeme.eq_of_jsxMark_ne_zero hlength
  rw [hone, List.take_succ_cons, List.take_zero]
  simp only [List.mem_cons, List.not_mem_nil, or_false] at hc
  obtain rfl | rfl | rfl | rfl | rfl | rfl | rfl | rfl := hc
  · exact .openTag hregion
  · exact .closeTag hregion
  · exact .otherMark hregion (by simp)
  · exact .otherMark hregion (by simp)
  · exact .otherMark hregion (by simp)
  · exact .openHole hregion
  · exact .otherMark hregion (by simp)
  · exact .slash hregion

theorem takes_of_jsxChild (hregion : s.region = .jsxChildren)
    (h : Rule.jsxChild s text = some step) : Takes jsx s text step := by
  unfold Rule.jsxChild at h
  split at h
  · obtain rfl := Option.some.inj h
    exact .childTag hregion
  · obtain rfl := Option.some.inj h
    exact .childHole hregion
  · cases h

/-- A character that no rule reads is of the kind that the region says. -/
theorem takes_stray {c : Char} {rest : Text}
    (hrules : ∀ rule ∈ s.region.rules jsx, rule s (c :: rest) = none) :
    Takes jsx s (c :: rest) (Step.stray s (c :: rest)) := by
  unfold Step.stray
  cases hregion : s.region.isJsx with
  | false => exact .stray hregion hrules
  | true => exact .jsxStray hregion hrules

end Rules

/-! ## Every step -/

theorem cases_of_findSome? {α β : Type} {f : α → Option β} {a : α} {l : List α} {b : β}
    (h : (a :: l).findSome? f = some b) : f a = some b ∨ f a = none ∧ l.findSome? f = some b := by
  rw [List.findSome?_cons] at h
  cases ha : f a with
  | some b' => rw [ha] at h; exact .inl h
  | none => rw [ha] at h; exact .inr ⟨rfl, h⟩

theorem Region.rules_of_not_isJsx {region : Region} (h : region.isJsx = false) (jsx : Bool) :
    region.rules jsx = Rule.script jsx ++ Rule.trivia := by
  cases region <;> first | rfl | simp [Region.isJsx] at h

theorem Region.rules_of_tag {region : Region} (h : region = .jsxTag ∨ region = .jsxClosingTag)
    (jsx : Bool) : region.rules jsx = Rule.tag ++ Rule.trivia := by
  obtain rfl | rfl := h <;> rfl

/-- The regions are of three sorts, each with rules of its own. -/
theorem Region.sorts (region : Region) :
    region.isJsx = false ∨ (region = .jsxTag ∨ region = .jsxClosingTag) ∨
      region = .jsxChildren := by
  cases region <;> simp [Region.isJsx]

section Steps

variable {jsx : Bool} {s : Context} {text : Text} {step : Step}

theorem takes_of_trivia (h : Rule.trivia.findSome? (fun rule => rule s text) = some step) :
    Takes jsx s text step := by
  obtain h | ⟨-, h⟩ := cases_of_findSome? h
  · obtain ⟨hlength, rfl⟩ := Step.ofLength?_eq_some_iff.1 h
    exact .whitespace hlength
  obtain h | ⟨-, h⟩ := cases_of_findSome? h
  · obtain ⟨hlength, rfl⟩ := Step.ofLength?_eq_some_iff.1 h
    exact .lineBreak hlength
  obtain h | ⟨-, h⟩ := cases_of_findSome? h
  · obtain ⟨hlength, rfl⟩ := Step.ofLength?_eq_some_iff.1 h
    exact .blockComment hlength
  obtain h | ⟨-, h⟩ := cases_of_findSome? h
  · obtain ⟨hlength, rfl⟩ := Step.ofLength?_eq_some_iff.1 h
    exact .lineComment hlength
  · cases h

theorem takes_of_script (hregion : s.region.isJsx = false)
    (h : (Rule.script jsx ++ Rule.trivia).findSome? (fun rule => rule s text) = some step) :
    Takes jsx s text step := by
  obtain h | ⟨hregex, h⟩ := cases_of_findSome? h
  · exact takes_of_regex hregion h
  obtain h | ⟨hrest, h⟩ := cases_of_findSome? h
  · exact takes_of_templateRest h
  obtain h | ⟨hend, h⟩ := cases_of_findSome? h
  · exact takes_of_jsxHoleEnd h
  obtain h | ⟨htag, h⟩ := cases_of_findSome? h
  · exact takes_of_tagStart hregion h
  obtain h | ⟨hpunctuator, h⟩ := cases_of_findSome? h
  · exact takes_of_punctuator hregion hregex hrest hend htag h
  obtain h | ⟨-, h⟩ := cases_of_findSome? h
  · exact takes_of_name hregion h
  obtain h | ⟨-, h⟩ := cases_of_findSome? h
  · obtain ⟨hlength, rfl⟩ := Step.ofLength?_eq_some_iff.1 h
    exact .string hregion hlength
  obtain h | ⟨-, h⟩ := cases_of_findSome? h
  · obtain ⟨hlength, rfl⟩ := Step.ofLength?_eq_some_iff.1 h
    exact .number hregion hlength
  obtain h | ⟨-, h⟩ := cases_of_findSome? h
  · exact takes_of_template hregion hpunctuator h
  · exact takes_of_trivia h

theorem takes_of_tag (hregion : s.region = .jsxTag ∨ s.region = .jsxClosingTag)
    (h : (Rule.tag ++ Rule.trivia).findSome? (fun rule => rule s text) = some step) :
    Takes jsx s text step := by
  obtain h | ⟨-, h⟩ := cases_of_findSome? h
  · exact takes_of_jsxMark hregion h
  obtain h | ⟨-, h⟩ := cases_of_findSome? h
  · obtain ⟨hlength, rfl⟩ := Step.ofLength?_eq_some_iff.1 h
    exact .jsxName hregion hlength
  obtain h | ⟨-, h⟩ := cases_of_findSome? h
  · obtain ⟨hlength, rfl⟩ := Step.ofLength?_eq_some_iff.1 h
    exact .jsxValue hregion hlength
  · exact takes_of_trivia h

theorem takes_of_children (hregion : s.region = .jsxChildren)
    (h : (Rule.children ++ Rule.trivia).findSome? (fun rule => rule s text) = some step) :
    Takes jsx s text step := by
  obtain h | ⟨-, h⟩ := cases_of_findSome? h
  · obtain ⟨hlength, rfl⟩ := Step.ofLength?_eq_some_iff.1 h
    exact .jsxContent hregion hlength
  obtain h | ⟨-, h⟩ := cases_of_findSome? h
  · exact takes_of_jsxChild hregion h
  · exact takes_of_trivia h

/-- Every step is one of those listed. -/
theorem takes_step (jsx : Bool) (s : Context) {text : Text} (htext : text ≠ []) :
    Takes jsx s text (s.step jsx text) := by
  obtain ⟨c, rest, rfl⟩ := List.exists_cons_of_ne_nil htext
  unfold Context.step
  cases hfind : (s.region.rules jsx).findSome? fun rule => rule s (c :: rest) with
  | none => exact takes_stray (List.findSome?_eq_none_iff.1 hfind)
  | some step =>
    obtain hregion | hregion | hregion := s.region.sorts
    · rw [Region.rules_of_not_isJsx hregion] at hfind
      exact takes_of_script hregion hfind
    · rw [Region.rules_of_tag hregion] at hfind
      exact takes_of_tag hregion hfind
    · rw [hregion] at hfind
      exact takes_of_children hregion hfind

end Steps

/-! ## Progress -/

/-- A step reads at least one character, and none behind the text. -/
theorem Takes.length_bounds {jsx : Bool} {s : Context} {text : Text} {step : Step}
    (h : Takes jsx s text step) : 0 < step.length ∧ step.length ≤ text.length := by
  cases h with
  | regex _ _ hlength => exact ⟨Nat.pos_of_ne_zero hlength, Lexeme.regex_le _⟩
  | templateMiddle | templateTail | templateHead | template =>
    exact ⟨Nat.succ_pos _, Nat.succ_le_succ (Lexeme.templateBody_le _)⟩
  | jsxHoleEnd | tagStart | openTag | closeTag | openHole | slash | otherMark | childTag
  | childHole | stray | jsxStray =>
    exact ⟨Nat.one_pos, Nat.succ_le_succ (Nat.zero_le _)⟩
  | punctuator _ _ _ _ hlength => exact ⟨Nat.pos_of_ne_zero hlength, Lexeme.punctuator_le _⟩
  | identifier _ hlength | privateName _ hlength =>
    exact ⟨Nat.pos_of_ne_zero hlength, Lexeme.name_le _⟩
  | string _ hlength => exact ⟨Nat.pos_of_ne_zero hlength, Lexeme.string_le _⟩
  | number _ hlength => exact ⟨Nat.pos_of_ne_zero hlength, Lexeme.number_le _⟩
  | jsxName _ hlength => exact ⟨Nat.pos_of_ne_zero hlength, Lexeme.jsxName_le _⟩
  | jsxValue _ hlength => exact ⟨Nat.pos_of_ne_zero hlength, Lexeme.jsxValue_le _⟩
  | jsxContent _ hlength => exact ⟨Nat.pos_of_ne_zero hlength, Lexeme.jsxContent_le _⟩
  | whitespace hlength => exact ⟨Nat.pos_of_ne_zero hlength, Lexeme.whitespace_le _⟩
  | lineBreak hlength => exact ⟨Nat.pos_of_ne_zero hlength, Lexeme.lineBreak_le _⟩
  | blockComment hlength => exact ⟨Nat.pos_of_ne_zero hlength, Lexeme.blockComment_le _⟩
  | lineComment hlength => exact ⟨Nat.pos_of_ne_zero hlength, Lexeme.lineComment_le _⟩

end SyntaxColor
