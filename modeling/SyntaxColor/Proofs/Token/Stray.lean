/-
  Characters that begin no token.

  The rules of a region are tried in order, and each of them refuses most texts: a point is no
  punctuator before a digit, a slash none before a star, a backslash no name without an escape.  What
  one rule refuses another one takes, so that few characters are left over.

  `BeginsNoToken`: which these are, in each region.
  `kind_step_iff`: a step reads a character that is left over exactly where one stands.
  `stray_iff_beginsNoToken`: so does every text.
-/
import SyntaxColor.Proofs.Grammar.Name
import SyntaxColor.Proofs.Grammar.Number
import SyntaxColor.Proofs.Token.Exact

namespace SyntaxColor

open Text Unicode Lexeme

/-! ## Characters -/

/-- Whether `c` is one of the printable characters of ASCII, the blank among them. -/
def IsPrintableAscii (c : Char) : Prop := 0x20 ≤ c.toNat ∧ c.toNat ≤ 0x7E

instance : DecidablePred IsPrintableAscii := fun _ => inferInstanceAs (Decidable (_ ∧ _))

/-- The printable characters that, alone or before some texts, begin no token of script. -/
def oddCharacters : List Char := ['@', '#', '\\']

/-- The characters that begin a mark or a value in a tag. -/
def tagCharacters : List Char := ['<', '>', '.', ':', '=', '{', '}', '/', '\'', '"']

/-- In this region, no token begins at the start of this text. -/
inductive BeginsNoToken : Region → Text → Prop
  | decorator {region : Region} {rest : Text} (hregion : region.isJsx = false) :
      BeginsNoToken region ('@' :: rest)
  | hash {region : Region} {rest : Text} (hregion : region.isJsx = false)
      (hname : ¬ BeginsPlainName rest) : BeginsNoToken region ('#' :: rest)
  | backslash {region : Region} {rest : Text} (hregion : region.isJsx = false)
      (hescape : ∀ escape, IsNameEscape escape → ¬ escape <+: '\\' :: rest) :
      BeginsNoToken region ('\\' :: rest)
  /-- A character beyond those that are printed in ASCII, which is no letter, blank or line end. -/
  | foreign {region : Region} {c : Char} {rest : Text} (hregion : region.isJsx = false)
      (hprintable : ¬ IsPrintableAscii c) (hblank : isBlank c = false)
      (hend : isLineEnd c = false) (hbegins : beginsName c = false) :
      BeginsNoToken region (c :: rest)
  /-- A closing mark between tags, which closes nothing there. -/
  | child {c : Char} {rest : Text} (hc : c = '>' ∨ c = '}') :
      BeginsNoToken .jsxChildren (c :: rest)
  | tag {region : Region} {c : Char} {rest : Text}
      (hregion : region = .jsxTag ∨ region = .jsxClosingTag) (hc : c ∉ tagCharacters)
      (hblank : isBlank c = false) (hend : isLineEnd c = false) (hbegins : beginsName c = false) :
      BeginsNoToken region (c :: rest)

/-- Every printable character is odd, blank, or begins a lexeme of script. -/
theorem cases_of_isPrintableAscii {c : Char} (h : IsPrintableAscii c) :
    c ∈ oddCharacters ∨ isBlank c = true ∨ beginsName c = true ∨ c.isDigit = true ∨
      isQuote c = true ∨ c ∈ ['\x60', '/', '.'] ∨ [c] ∈ punctuators := by
  have hall : ∀ n < 0x7F, 0x20 ≤ n → Char.ofNat n ∈ oddCharacters ∨
      isBlank (Char.ofNat n) = true ∨ beginsName (Char.ofNat n) = true ∨
      (Char.ofNat n).isDigit = true ∨ isQuote (Char.ofNat n) = true ∨
      Char.ofNat n ∈ ['\x60', '/', '.'] ∨ [Char.ofNat n] ∈ punctuators := by
    decide +kernel
  have hc := hall c.toNat (Nat.lt_succ_of_le h.2) h.1
  rwa [Char.ofNat_toNat] at hc

/-! ## Lexemes by their first character -/

namespace Lexeme

theorem number_ne_zero_of_isDigit {d : Char} (hd : d.isDigit = true) (rest : Text) :
    number (d :: rest) ≠ 0 := by
  have hinteger : IsInteger [d] := by
    by_cases hzero : d = '0'
    · rw [hzero]
      exact .zero
    · exact .positive (.cons hd .nil) (by simpa using hzero)
  have hle := (IsNumber.decimal hinteger (.inl rfl) (.inl rfl)).length_le_number rest
  exact Nat.ne_of_gt hle

theorem name_hash_ne_zero_iff {rest : Text} : name ('#' :: rest) ≠ 0 ↔ BeginsPlainName rest := by
  rw [← plainName_ne_zero_iff, name]
  split <;> simp_all

/-- A backslash begins a name only with an escape. -/
theorem name_backslash_ne_zero_iff {rest : Text} : name ('\\' :: rest) ≠ 0 ↔
    ∃ escape, IsNameEscape escape ∧ escape <+: '\\' :: rest := by
  have hbackslash : beginsName '\\' = false := by decide
  have hname : name ('\\' :: rest) = plainName ('\\' :: rest) := rfl
  rw [hname, plainName_ne_zero_iff, BeginsPlainName]
  simp [hbackslash]

theorem name_ne_zero_of_beginsName {c : Char} (hc : beginsName c = true) (rest : Text) :
    name (c :: rest) ≠ 0 := by
  have hle := (IsName.plain (.char hc .nil)).length_le_name rest
  exact Nat.ne_of_gt hle

/-- A point is a punctuator or begins a number. -/
theorem point_ne_zero (rest : Text) : punctuator ('.' :: rest) ≠ 0 ∨ number ('.' :: rest) ≠ 0 := by
  cases hdigit : startsWithDigit rest with
  | false => exact .inl (punctuator_point_ne_zero hdigit)
  | true => exact .inr (number_point_ne_zero hdigit)

/-- A slash is a punctuator or begins a comment. -/
theorem slash_ne_zero (rest : Text) : punctuator ('/' :: rest) ≠ 0 ∨
    lineComment ('/' :: rest) ≠ 0 ∨ blockComment ('/' :: rest) ≠ 0 := by
  by_cases hmark : punctuator ('/' :: rest) = 0
  · exact .inr (comment_ne_zero (punctuator_slash_eq_zero_iff.1 hmark))
  · exact .inl hmark

/-- Each mark of a tag is read as one, or begins a comment. -/
theorem comment_of_jsxMark_eq_zero {c : Char} {rest : Text}
    (hc : c ∈ ['<', '>', '.', ':', '=', '{', '}', '/']) (h : jsxMark (c :: rest) = 0) :
    lineComment (c :: rest) ≠ 0 ∨ blockComment (c :: rest) ≠ 0 := by
  revert h
  generalize htext : c :: rest = text
  fun_cases jsxMark text with
  | case1 => exact fun _ => comment_ne_zero (.inl rfl)
  | case2 => exact fun _ => comment_ne_zero (.inr rfl)
  | case3 => exact fun h => absurd h Nat.one_ne_zero
  | case4 d more _ _ hd =>
    obtain ⟨rfl, -⟩ := List.cons.inj htext
    exact absurd hc hd
  | case5 => cases htext

theorem jsxName_ne_zero {c : Char} (hc : beginsName c = true) (rest : Text) :
    jsxName (c :: rest) ≠ 0 := by
  have hpart : isJsxNamePart c = true := by simp [isJsxNamePart, continuesName_of_beginsName hc]
  simp [jsxName, hc, runLength, hpart]

theorem isLineEnd_of_lineBreak_eq_zero {c : Char} {rest : Text} (h : lineBreak (c :: rest) = 0) :
    isLineEnd c = false := by
  unfold lineBreak lineBreakLength at h
  split at h
  · cases h
  · next heq =>
    obtain ⟨rfl, -⟩ := List.cons.inj heq
    simpa using h
  · next heq => cases heq

theorem eq_false_of_runLength_eq_zero {p : Char → Bool} {c : Char} {rest : Text}
    (h : runLength p (c :: rest) = 0) : p c = false := by
  cases hc : p c with
  | false => rfl
  | true => simp [runLength, hc] at h

end Lexeme

/-! ## Characters that no rule reads -/

section Rules

variable {jsx : Bool} {s : Context} {c : Char} {rest : Text}

theorem Rule.mem_rules_of_trivia {rule : Rule} (h : rule ∈ Rule.trivia) (jsx : Bool)
    (region : Region) : rule ∈ region.rules jsx := by
  cases region <;> exact List.mem_append_right _ h

/-- What the rules that hold in every region leave over. -/
structure NoTrivia (c : Char) (rest : Text) : Prop where
  isBlank : isBlank c = false
  isLineEnd : isLineEnd c = false
  blockComment : blockComment (c :: rest) = 0
  lineComment : lineComment (c :: rest) = 0

theorem noTrivia_of_rules (hrules : ∀ rule ∈ s.region.rules jsx, rule s (c :: rest) = none) :
    NoTrivia c rest := by
  have hnone : ∀ rule ∈ Rule.trivia, rule s (c :: rest) = none :=
    fun rule hrule => hrules rule (Rule.mem_rules_of_trivia hrule jsx s.region)
  refine ⟨?_, ?_, ?_, ?_⟩
  · exact eq_false_of_runLength_eq_zero
      (Step.ofLength?_eq_none_iff.1 (hnone Rule.whitespace (by simp [Rule.trivia])))
  · exact isLineEnd_of_lineBreak_eq_zero
      (Step.ofLength?_eq_none_iff.1 (hnone Rule.lineBreak (by simp [Rule.trivia])))
  · exact Step.ofLength?_eq_none_iff.1 (hnone Rule.blockComment (by simp [Rule.trivia]))
  · exact Step.ofLength?_eq_none_iff.1 (hnone Rule.lineComment (by simp [Rule.trivia]))

/-- What the scanners of script leave over, besides trivia. -/
structure NoScript (c : Char) (rest : Text) : Prop where
  punctuator : punctuator (c :: rest) = 0
  name : name (c :: rest) = 0
  number : number (c :: rest) = 0
  isQuote : isQuote c = false
  ne_backtick : c ≠ '\x60'

theorem noScript_of_rules (hregion : s.region.isJsx = false)
    (hrules : ∀ rule ∈ s.region.rules jsx, rule s (c :: rest) = none) : NoScript c rest := by
  rw [Region.rules_of_not_isJsx hregion] at hrules
  have hnone : ∀ rule ∈ Rule.script jsx, rule s (c :: rest) = none :=
    fun rule hrule => hrules rule (List.mem_append_left _ hrule)
  refine ⟨?_, ?_, ?_, ?_, ?_⟩
  · exact Step.ofLength?_eq_none_iff.1 (hnone Rule.punctuator (by simp [Rule.script]))
  · exact Step.ofLength?_eq_none_iff.1 (hnone Rule.name (by simp [Rule.script]))
  · exact Step.ofLength?_eq_none_iff.1 (hnone Rule.number (by simp [Rule.script]))
  · have hstring := Step.ofLength?_eq_none_iff.1 (hnone Rule.string (by simp [Rule.script]))
    simpa [Lexeme.string] using hstring
  · rintro rfl
    have htemplate := hnone Rule.template (by simp [Rule.script])
    simp [Rule.template, templatePiece?] at htemplate

/-- No printable character is left over but the odd ones. -/
theorem NoScript.not_isPrintableAscii (h : NoScript c rest) (htrivia : NoTrivia c rest)
    (hodd : c ∉ oddCharacters) : ¬ IsPrintableAscii c := by
  intro hprintable
  have hslash : c ≠ '/' := by
    rintro rfl
    obtain hmark | hline | hblock := slash_ne_zero rest
    · exact hmark h.punctuator
    · exact hline htrivia.lineComment
    · exact hblock htrivia.blockComment
  have hpoint : c ≠ '.' := by
    rintro rfl
    obtain hmark | hnumber := point_ne_zero rest
    · exact hmark h.punctuator
    · exact hnumber h.number
  obtain hc | hblank | hbegins | hdigit | hquote | hother | hmark :=
    cases_of_isPrintableAscii hprintable
  · exact hodd hc
  · simp [htrivia.isBlank] at hblank
  · exact name_ne_zero_of_beginsName hbegins rest h.name
  · exact number_ne_zero_of_isDigit hdigit rest h.number
  · simp [h.isQuote] at hquote
  · simp [h.ne_backtick, hslash, hpoint] at hother
  · exact punctuator_ne_zero hmark hslash hpoint rest h.punctuator

theorem beginsNoToken_of_script (hregion : s.region.isJsx = false) (h : NoScript c rest)
    (htrivia : NoTrivia c rest) : BeginsNoToken s.region (c :: rest) := by
  by_cases hodd : c ∈ oddCharacters
  · simp only [oddCharacters, List.mem_cons, List.not_mem_nil, or_false] at hodd
    obtain rfl | rfl | rfl := hodd
    · exact .decorator hregion
    · exact .hash hregion fun hname => name_hash_ne_zero_iff.2 hname h.name
    · exact .backslash hregion fun escape hescape hprefix =>
        name_backslash_ne_zero_iff.2 ⟨escape, hescape, hprefix⟩ h.name
  · have hbegins : beginsName c = false :=
      Bool.eq_false_iff.2 fun hbegins => name_ne_zero_of_beginsName hbegins rest h.name
    exact .foreign hregion (h.not_isPrintableAscii htrivia hodd) htrivia.isBlank htrivia.isLineEnd
      hbegins

theorem beginsNoToken_of_tag (hregion : s.region = .jsxTag ∨ s.region = .jsxClosingTag)
    (hrules : ∀ rule ∈ s.region.rules jsx, rule s (c :: rest) = none) :
    BeginsNoToken s.region (c :: rest) := by
  have htrivia := noTrivia_of_rules hrules
  rw [Region.rules_of_tag hregion] at hrules
  have hmark := Step.ofLength?_eq_none_iff.1 (hrules Rule.jsxMark (by simp [Rule.tag]))
  have hname := Step.ofLength?_eq_none_iff.1 (hrules Rule.jsxName (by simp [Rule.tag]))
  have hvalue := Step.ofLength?_eq_none_iff.1 (hrules Rule.jsxValue (by simp [Rule.tag]))
  have hquote : isQuote c = false := by simpa [jsxValue] using hvalue
  refine .tag hregion ?_ htrivia.isBlank htrivia.isLineEnd
    (Bool.eq_false_iff.2 fun hbegins => jsxName_ne_zero hbegins rest hname)
  intro hc
  obtain hc | rfl | rfl : c ∈ ['<', '>', '.', ':', '=', '{', '}', '/'] ∨ c = '\'' ∨ c = '"' := by
    simpa [tagCharacters, or_assoc] using hc
  · obtain hline | hblock := comment_of_jsxMark_eq_zero hc hmark
    · exact hline htrivia.lineComment
    · exact hblock htrivia.blockComment
  · cases hquote
  · cases hquote

/-- What no rule reads begins no token. -/
theorem beginsNoToken_of_rules
    (hrules : ∀ rule ∈ s.region.rules jsx, rule s (c :: rest) = none) :
    BeginsNoToken s.region (c :: rest) := by
  have htrivia := noTrivia_of_rules hrules
  obtain hregion | hregion | hregion := s.region.sorts
  · exact beginsNoToken_of_script hregion (noScript_of_rules hregion hrules) htrivia
  · exact beginsNoToken_of_tag hregion hrules
  · rw [hregion] at hrules ⊢
    have hcontent := Step.ofLength?_eq_none_iff.1
      (hrules Rule.jsxContent (by simp [Region.rules, Rule.children]))
    have hchild := hrules Rule.jsxChild (by simp [Region.rules, Rule.children])
    have hdelimiter := eq_false_of_runLength_eq_zero hcontent
    simp only [isJsxDelimiter, Bool.not_eq_false', Bool.or_eq_true, decide_eq_true_eq]
      at hdelimiter
    obtain ((rfl | hc) | rfl) | hc := hdelimiter
    · cases hchild
    · exact .child (.inl hc)
    · cases hchild
    · exact .child (.inr hc)

/-! ## Rules that read nothing -/

theorem trivia_refuses (hblank : isBlank c = false) (hend : isLineEnd c = false) (hslash : c ≠ '/') :
    ∀ rule ∈ Rule.trivia, rule s (c :: rest) = none := by
  have hbreak : lineBreak (c :: rest) = 0 := by
    have hreturn : c ≠ '\r' := by
      rintro rfl
      cases hend
    simp [lineBreak, lineBreakLength, hreturn, hend]
  simp only [Rule.trivia, List.forall_mem_cons, List.not_mem_nil, false_implies, implies_true,
    and_true]
  refine ⟨?_, ?_, ?_, ?_⟩
  · exact Step.ofLength?_eq_none_iff.2 (by simp [whitespace, runLength, hblank])
  · exact Step.ofLength?_eq_none_iff.2 hbreak
  · exact Step.ofLength?_eq_none_iff.2 (by simp [blockComment, hslash])
  · exact Step.ofLength?_eq_none_iff.2 (by simp [lineComment, hslash])

/-- Every lexeme of script begins with a printable character that is not odd, but for names. -/
theorem script_refuses (hodd : IsPrintableAscii c → c ∈ oddCharacters)
    (hname : name (c :: rest) = 0) : ∀ rule ∈ Rule.script jsx, rule s (c :: rest) = none := by
  have hne : ∀ d, IsPrintableAscii d → d ∉ oddCharacters → c ≠ d := by
    rintro d hd hnot rfl
    exact hnot (hodd hd)
  have hmark : ∀ mark ∈ punctuators, mark.head? ≠ some c := by
    have hall : ∀ mark ∈ punctuators,
        mark.head?.all fun d => IsPrintableAscii d ∧ d ∉ oddCharacters := by decide
    intro mark hmark hhead
    have hc := hall mark hmark
    rw [hhead] at hc
    obtain ⟨hprintable, hnot⟩ := of_decide_eq_true hc
    exact hnot (hodd hprintable)
  have hdigit : c.isDigit = false := by
    refine Bool.eq_false_iff.2 fun hdigit => ?_
    have hbounds := toNat_of_isDigit hdigit
    have hmem := hodd ⟨by omega, by omega⟩
    simp only [oddCharacters, List.mem_cons, List.not_mem_nil, or_false] at hmem
    obtain rfl | rfl | rfl := hmem <;> cases hdigit
  have hquote : isQuote c = false := by
    simp [isQuote, hne '\'' (by decide) (by decide), hne '"' (by decide) (by decide)]
  have hslash : c ≠ '/' := hne '/' (by decide) (by decide)
  have hbrace : c ≠ '}' := hne '}' (by decide) (by decide)
  have hless : c ≠ '<' := hne '<' (by decide) (by decide)
  have hpoint : c ≠ '.' := hne '.' (by decide) (by decide)
  have hbacktick : c ≠ '\x60' := hne '\x60' (by decide) (by decide)
  simp only [Rule.script, List.forall_mem_cons, List.not_mem_nil, false_implies, implies_true,
    and_true]
  refine ⟨regex_eq_none hslash rest, templateRest_eq_none hbrace rest, jsxHoleEnd_eq_none hbrace rest,
    tagStart_eq_none hless rest, punctuator_eq_none hmark rest,
    Step.ofLength?_eq_none_iff.2 hname, string_eq_none hquote rest,
    Step.ofLength?_eq_none_iff.2 (number_eq_zero hdigit hpoint rest), ?_⟩
  simp [Rule.template, templatePiece?, hbacktick, hbrace]

theorem tag_refuses (hc : c ∉ tagCharacters) (hbegins : beginsName c = false) :
    ∀ rule ∈ Rule.tag, rule s (c :: rest) = none := by
  simp only [tagCharacters, List.mem_cons, List.not_mem_nil, or_false, not_or] at hc
  simp only [Rule.tag, List.forall_mem_cons, List.not_mem_nil, false_implies, implies_true,
    and_true]
  refine ⟨?_, ?_, ?_⟩
  · exact Step.ofLength?_eq_none_iff.2 (by simp [jsxMark, hc])
  · exact Step.ofLength?_eq_none_iff.2 (by simp [jsxName, hbegins])
  · exact Step.ofLength?_eq_none_iff.2 (by simp [jsxValue, isQuote, hc])

theorem children_refuses (hc : c = '>' ∨ c = '}') :
    ∀ rule ∈ Rule.children, rule s (c :: rest) = none := by
  simp only [Rule.children, List.forall_mem_cons, List.not_mem_nil, false_implies, implies_true,
    and_true]
  obtain rfl | rfl := hc
  · exact ⟨rfl, rfl⟩
  · exact ⟨rfl, rfl⟩

/-- Where no token begins, no rule reads one. -/
theorem rules_of_beginsNoToken (h : BeginsNoToken s.region (c :: rest)) :
    ∀ rule ∈ s.region.rules jsx, rule s (c :: rest) = none := by
  have hscript (hregion : s.region.isJsx = false) (hodd : IsPrintableAscii c → c ∈ oddCharacters)
      (hname : name (c :: rest) = 0) (hblank : isBlank c = false) (hend : isLineEnd c = false) :
      ∀ rule ∈ s.region.rules jsx, rule s (c :: rest) = none := by
    have hslash : c ≠ '/' := by
      rintro rfl
      exact absurd (hodd (by decide)) (by decide)
    rw [Region.rules_of_not_isJsx hregion, List.forall_mem_append]
    exact ⟨script_refuses hodd hname, trivia_refuses hblank hend hslash⟩
  generalize hregion' : s.region = region at h hscript ⊢
  cases h with
  | decorator hregion =>
    exact hscript hregion (fun _ => by decide) rfl (by decide) (by decide)
  | hash hregion hname =>
    have hname := Decidable.not_not.1 (mt name_hash_ne_zero_iff.1 hname)
    exact hscript hregion (fun _ => by decide) hname (by decide) (by decide)
  | backslash hregion hescape =>
    have hname := Decidable.not_not.1 (mt name_backslash_ne_zero_iff.1 (by simpa using hescape))
    exact hscript hregion (fun _ => by decide) hname (by decide) (by decide)
  | foreign hregion hprintable hblank hend hbegins =>
    have hother : c ∉ ['\\', '#'] := by
      simp only [List.mem_cons, List.not_mem_nil, or_false]
      rintro (rfl | rfl) <;> exact hprintable (by decide)
    have hname := Step.ofLength?_eq_none_iff.1 (name_eq_none (s := s) hbegins hother rest)
    exact hscript hregion (fun hc => absurd hc hprintable) hname hblank hend
  | child hc =>
    have hblank : isBlank c = false := by obtain rfl | rfl := hc <;> decide
    have hend : isLineEnd c = false := by obtain rfl | rfl := hc <;> decide
    have hslash : c ≠ '/' := by obtain rfl | rfl := hc <;> decide
    exact List.forall_mem_append.2 ⟨children_refuses hc, trivia_refuses hblank hend hslash⟩
  | tag hregion hc hblank hend hbegins =>
    have hslash : c ≠ '/' := by
      rintro rfl
      exact hc (by decide)
    rw [Region.rules_of_tag hregion, List.forall_mem_append]
    exact ⟨tag_refuses hc hbegins, trivia_refuses hblank hend hslash⟩

end Rules

/-- In script, no printable character is left over but the odd ones. -/
theorem BeginsNoToken.mem_oddCharacters {region : Region} {c : Char} {rest : Text}
    (h : BeginsNoToken region (c :: rest)) (hregion : region.isJsx = false)
    (hprintable : IsPrintableAscii c) : c ∈ oddCharacters := by
  cases h with
  | decorator | hash | backslash => decide
  | foreign _ hforeign => exact absurd hprintable hforeign
  | child => cases hregion
  | tag htag => obtain rfl | rfl := htag <;> cases hregion

/-- In a region of JSX it depends on the region whether marks are left over. -/
theorem BeginsNoToken.jsx_cases {region : Region} {c : Char} {rest : Text}
    (h : BeginsNoToken region (c :: rest)) : region.isJsx = false ∨
      (region = .jsxTag ∨ region = .jsxClosingTag) ∧ c ∉ tagCharacters ∨
      region = .jsxChildren ∧ (c = '>' ∨ c = '}') := by
  cases h with
  | decorator hregion | hash hregion | backslash hregion | foreign hregion => exact .inl hregion
  | child hc => exact .inr (.inr ⟨rfl, hc⟩)
  | tag hregion hc => exact .inr (.inl ⟨hregion, hc⟩)

/-! ## Steps -/

/-- Whether tokens of this kind are single characters that begin no token. -/
def Kind.isStray : Kind → Bool
  | .stray | .jsxStray => true
  | _ => false

section Steps

variable {jsx : Bool} {s : Context} {text : Text} {step : Step}

theorem step_of_beginsNoToken {c : Char} {rest : Text} (h : BeginsNoToken s.region (c :: rest)) :
    s.step jsx (c :: rest) = Step.stray s (c :: rest) := by
  rw [Context.step, List.findSome?_eq_none_iff.2 (rules_of_beginsNoToken h)]
  rfl

theorem Takes.beginsNoToken (h : Takes jsx s text step) (hkind : step.kind.isStray = true) :
    BeginsNoToken s.region text := by
  cases h with
  | stray _ hrules | jsxStray _ hrules => exact beginsNoToken_of_rules hrules
  | _ => cases hkind

end Steps

theorem isStray_kind_stray (s : Context) (text : Text) : (Step.stray s text).kind.isStray = true := by
  dsimp only [Step.stray]
  split <;> rfl

/-- A step reads a single character that is left over where no token begins, and only there. -/
theorem kind_step_iff {jsx : Bool} {s : Context} {c : Char} {rest : Text} :
    (s.step jsx (c :: rest)).kind.isStray = true ↔ BeginsNoToken s.region (c :: rest) := by
  constructor
  · exact (takes_step jsx s (List.cons_ne_nil c rest)).beginsNoToken
  · intro h
    rw [step_of_beginsNoToken h]
    exact isStray_kind_stray s (c :: rest)

/-! ## Every text -/

/-- In every text, a token is a single character that is left over if and only if, in the region in
    which it is read, no token begins where it stands, unless the text names an interpreter there.
    It is of the kind for script or of the kind for JSX as the region is. -/
theorem stray_iff_beginsNoToken {jsx : Bool} {text : Text} {seen later : List Entry} {token : Token}
    {next : Context} (htrace : text.trace jsx = seen ++ (token, next) :: later) :
    (token.kind.isStray = true ↔ token.kind ≠ .hashbang ∧
        BeginsNoToken (contextAfter {} seen).region
          (token.text ++ later.flatMap (·.1.text))) ∧
      (token.kind.isStray = true → ∃ c, token.text = [c]) ∧
      (token.kind = .stray → (contextAfter {} seen).region.isJsx = false) ∧
      (token.kind = .jsxStray → (contextAfter {} seen).region.isJsx = true) := by
  by_cases hhashbang : token.kind = .hashbang
  · simp [hhashbang, Kind.isStray]
  obtain ⟨c, rest, htext, hentry, -⟩ := step_of_trace_eq htrace hhashbang
  rw [List.flatMap_cons] at htext
  obtain ⟨htoken, -⟩ := Prod.mk.inj hentry
  have hkind : token.kind = ((contextAfter {} seen).step jsx (c :: rest)).kind :=
    congrArg Token.kind htoken
  have hread : token.kind.isStray = true →
      token = ((Step.stray (contextAfter {} seen) (c :: rest)).entry (c :: rest)).1 := by
    intro hstray
    rw [hkind, kind_step_iff] at hstray
    rw [htoken, step_of_beginsNoToken hstray]
    rfl
  refine ⟨?_, ?_, ?_, ?_⟩
  · rw [htext, ← kind_step_iff, ← hkind]
    exact (and_iff_right hhashbang).symm
  · exact fun hstray => ⟨c, congrArg Token.text (hread hstray)⟩
  · intro hstray
    have hsame := congrArg Token.kind (hread (by rw [hstray]; rfl))
    rw [hstray] at hsame
    refine Bool.eq_false_iff.2 fun hjsx => ?_
    simp [Step.entry, Step.stray, hjsx] at hsame
  · intro hstray
    have hsame := congrArg Token.kind (hread (by rw [hstray]; rfl))
    rw [hstray] at hsame
    refine Decidable.byContradiction fun hjsx => ?_
    simp [Step.entry, Step.stray, hjsx] at hsame

/-- A `#` before a whole escape begins a private name.  Before an incomplete one it is left over, and
    so is the backslash behind it. -/
theorem stray_iff_beginsNoToken_hash :
    ((Text.trace true "#\\u\x7b61\x7d#\\u\x7b\x7d".toList).drop 1).head?.map Prod.fst =
        some ⟨.stray, ['#']⟩ ∧
      BeginsNoToken .script "#\\u\x7b\x7d".toList := by
  let trace := Text.trace true "#\\u\x7b61\x7d#\\u\x7b\x7d".toList
  have hlater : trace.drop 1 =
      (⟨.stray, ['#']⟩, contextAfter {} (trace.take 2)) :: trace.drop 2 := by
    decide +kernel
  have hregion : (contextAfter {} (trace.take 1)).region = .script := by decide +kernel
  have hbehind : ['#'] ++ (trace.drop 2).flatMap (·.1.text) = "#\\u\x7b\x7d".toList := by
    decide +kernel
  have htrace : trace = trace.take 1 ++
      (⟨.stray, ['#']⟩, contextAfter {} (trace.take 2)) :: trace.drop 2 := by
    rw [← hlater, List.take_append_drop]
  have hnone := ((stray_iff_beginsNoToken htrace).1.1 rfl).2
  rw [hregion, hbehind] at hnone
  exact ⟨by decide +kernel, hnone⟩

end SyntaxColor
