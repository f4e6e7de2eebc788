/-
  The stack of regions.

  One operation leaves a region, whichever is innermost, and does nothing where there is only one.
  `Token.closes` says which regions a token means to leave, `Token.opens` which it enters.

  `Takes.exists_keeps`: every step takes off the stack just what its token closes, and puts on it
  what the token opens; below that something is always left.
  `Reached.lessBeginsTag`: what lies right behind a `<` in JSX is a tag.
  `regions_shape`: which regions can lie on one another, and how tokens change them.
-/
import SyntaxColor.Proofs.Brackets.Landmark

namespace SyntaxColor

/-! ## Closed and opened regions -/

/-- The regions that a token means to close in the context `s`, the innermost first.  The slash
    behind a `<` makes the tag a closing one, which also ends the children among which it stands. -/
def Token.closes (token : Token) (s : Context) : List Region :=
  match token.kind, token.text with
  | .punctuator, [')'] =>
    if s.region = .controlHead (s.parenDepth - 1) then [.controlHead (s.parenDepth - 1)] else []
  | .templateTail, _ => [.templateHole s.openBraces.length]
  | .jsxMark, ['}'] => if s.region.isJsx then [] else [.jsxHole s.openBraces.length]
  | .jsxMark, ['>'] => if s.region = .jsxClosingTag then [.jsxClosingTag] else [.jsxTag]
  | .jsxMark, ['/'] =>
    if s.last ≠ .token ['<'] then []
    else if s.regions.tail.head? = some .jsxChildren then [.jsxTag, .jsxChildren]
    else [.jsxTag]
  | _, _ => []

/-- The regions that a token opens in the context `s`. -/
def Token.opens (token : Token) (s : Context) : List Region :=
  match token.kind, token.text with
  | .punctuator, ['('] => if s.last = .controlKeyword then [.controlHead s.parenDepth] else []
  | .templateHead, _ => [.templateHole s.openBraces.length]
  | .jsxMark, ['{'] => [.jsxHole s.openBraces.length]
  | .jsxMark, ['<'] => [.jsxTag]
  | .jsxMark, ['>'] =>
    if s.last = .token ['/'] ∨ s.region = .jsxClosingTag then [] else [.jsxChildren]
  | .jsxMark, ['/'] => if s.last = .token ['<'] then [.jsxClosingTag] else []
  | _, _ => []

/-- Whether tokens of this kind close or open regions. -/
def Kind.isBorder : Kind → Bool
  | .punctuator | .templateHead | .templateTail | .jsxMark => true
  | _ => false

/-- Right behind a `<` in JSX there is a tag. -/
def Context.LessBeginsTag (s : Context) : Prop :=
  s.region.isJsx = true → s.last = .token ['<'] → s.region = .jsxTag

section Steps

variable {jsx : Bool} {s next : Context} {text : Text} {step : Step} {token : Token}

theorem closes_eq_nil (h : token.kind.isBorder = false) (s : Context) : token.closes s = [] := by
  unfold Token.closes
  split <;> simp_all [Kind.isBorder]

theorem opens_eq_nil (h : token.kind.isBorder = false) (s : Context) : token.opens s = [] := by
  unfold Token.opens
  split <;> simp_all [Kind.isBorder]

theorem script_not_mem_closes (token : Token) (s : Context) : .script ∉ token.closes s := by
  unfold Token.closes
  repeat' split
  all_goals simp

/-- What a token does to the stack: some regions are kept, the others are closed or opened. -/
def Keeps (s : Context) (token : Token) (next : Context) (kept : List Region) : Prop :=
  s.regions = token.closes s ++ kept ∧ next.regions = token.opens s ++ kept

theorem keeps_of_kind (hkind : token.kind.isBorder = false) (h : next.regions = s.regions) :
    Keeps s token next s.regions := by
  rw [Keeps, closes_eq_nil hkind, opens_eq_nil hkind]
  exact ⟨rfl, h⟩

theorem region_eq_iff_head? {region : Region} (h : region ≠ .script) :
    s.region = region ↔ s.regions.head? = some region := by
  unfold Context.region
  cases s.regions with
  | nil => simp [h.symm]
  | cons => simp

/-- A punctuator other than a parenthesis leaves the regions as they are. -/
theorem regions_afterPunctuator {mark : Text} (hopen : mark ≠ ['(']) (hclose : mark ≠ [')']) :
    (s.afterPunctuator mark).regions = s.regions := by
  by_cases hbrace : mark = ['}']
  · rw [hbrace]
    exact regions_closeBrace s
  by_cases hbrace' : mark = ['{']
  · rw [hbrace']
    rfl
  · have hmark : mark ∉ [['('], [')'], ['{'], ['}']] := by simp [*]
    exact (Context.nesting_eq_iff.1 (nesting_afterPunctuator hmark)).1

theorem exists_kept_openParen (s : Context) :
    ∃ kept, Keeps s ⟨.punctuator, ['(']⟩ s.openParen kept := by
  refine ⟨s.regions, rfl, ?_⟩
  unfold Context.openParen
  by_cases hlast : s.last = .controlKeyword
  · simp [Token.opens, hlast, Context.afterOperator, Context.seen, Context.withOperand,
      Context.enter]
  · simp [Token.opens, hlast, Context.afterOperator, Context.seen, Context.withOperand]

theorem exists_kept_closeParen (hstacked : Stacked s.regions) :
    ∃ kept, Keeps s ⟨.punctuator, [')']⟩ s.closeParen kept := by
  by_cases hregion : s.region = .controlHead (s.parenDepth - 1)
  · have hregions := hstacked.regions_eq (by simp [hregion])
    refine ⟨s.leave.regions, ?_, ?_⟩
    · rw [Token.closes, if_pos hregion, ← hregion]
      exact hregions
    · rw [Context.closeParen, if_pos hregion]
      exact Context.regions_leave_congr rfl
  · refine ⟨s.regions, ?_, ?_⟩
    · rw [Token.closes, if_neg hregion]
      rfl
    · rw [Context.closeParen, if_neg hregion]
      rfl

theorem exists_kept_punctuator (hstacked : Stacked s.regions) (mark : Text) :
    ∃ kept, Keeps s ⟨.punctuator, mark⟩ (s.afterPunctuator mark) kept := by
  by_cases hopen : mark = ['(']
  · rw [hopen]
    exact exists_kept_openParen s
  by_cases hclose : mark = [')']
  · rw [hclose]
    exact exists_kept_closeParen hstacked
  · refine ⟨s.regions, ?_, ?_⟩
    · simp [Token.closes, hclose]
    · simp [Token.opens, hopen, regions_afterPunctuator hopen hclose]

theorem exists_kept_closeTag (hstacked : Stacked s.regions)
    (hregion : s.region = .jsxTag ∨ s.region = .jsxClosingTag) :
    ∃ kept, Keeps s ⟨.jsxMark, ['>']⟩ s.closeTag kept := by
  have hregions : s.regions = s.region :: s.leave.regions :=
    hstacked.regions_eq (by obtain h | h := hregion <;> simp [h])
  refine ⟨s.leave.regions, ?_, ?_⟩
  · obtain hregion | hregion := hregion
    · simp [Token.closes, hregion, hregions]
    · simp [Token.closes, hregion, hregions]
  · unfold Context.closeTag Token.opens
    dsimp only
    split
    · rfl
    · rfl

/-- The slash of a closing tag closes the tag that was opened last, and the children around it. -/
theorem exists_kept_slashInTag (hstacked : Stacked s.regions) (hless : s.LessBeginsTag)
    (hregion : s.region = .jsxTag ∨ s.region = .jsxClosingTag) :
    ∃ kept, Keeps s ⟨.jsxMark, ['/']⟩ s.slashInTag kept := by
  by_cases hlast : s.last = .token ['<']
  · have htag := hless (isJsx_of_tag hregion) hlast
    have hregions := hstacked.regions_eq (by simp [htag])
    rw [htag] at hregions
    by_cases hchildren : s.leave.region = .jsxChildren
    · have houter := hstacked.leave.regions_eq (by simp [hchildren])
      rw [hchildren] at houter
      refine ⟨s.leave.leave.regions, ?_, ?_⟩
      · simp [Token.closes, hlast, hregions, houter]
      · simp [Token.opens, hlast, Context.slashInTag, hchildren, Context.seen, Context.enter]
    · have hhead := mt (region_eq_iff_head? (by simp)).2 hchildren
      refine ⟨s.leave.regions, ?_, ?_⟩
      · simp [Token.closes, hlast, hregions, hhead]
      · simp [Token.opens, hlast, Context.slashInTag, hchildren, Context.seen, Context.enter]
  · refine ⟨s.regions, ?_, ?_⟩
    · simp [Token.closes, hlast]
    · simp [Token.opens, hlast, Context.slashInTag, Context.seen]

/-- Every step takes off the stack what its token closes, and puts on it what the token opens. -/
theorem Takes.exists_keeps (h : Takes jsx s text step) (hstacked : Stacked s.regions)
    (hless : s.LessBeginsTag) : ∃ kept, Keeps s (step.entry text).1 step.next kept := by
  cases h with
  | punctuator => exact exists_kept_punctuator hstacked _
  | templateTail hregion | jsxHoleEnd hregion =>
    have hregions := hstacked.regions_eq (by simp [hregion])
    refine ⟨s.leave.regions, ?_, rfl⟩
    rw [hregions, hregion]
    simp [Step.entry, Token.closes, hregion, Region.isJsx]
  | templateHead => exact ⟨s.regions, rfl, rfl⟩
  | tagStart | openTag | childTag => exact ⟨s.regions, rfl, rfl⟩
  | openHole | childHole => exact ⟨s.regions, rfl, rfl⟩
  | closeTag hregion => exact exists_kept_closeTag hstacked hregion
  | slash hregion => exact exists_kept_slashInTag hstacked hless hregion
  | otherMark hregion hmark =>
    simp only [List.mem_cons, List.not_mem_nil, or_false] at hmark
    refine ⟨s.regions, ?_, ?_⟩
    · obtain rfl | rfl | rfl | rfl := hmark <;>
        simp [Step.entry, Token.closes, isJsx_of_tag hregion]
    · obtain rfl | rfl | rfl | rfl := hmark <;> rfl
  | lineBreak =>
    exact ⟨s.regions, keeps_of_kind rfl (Context.nesting_eq_iff.1 (nesting_breakLine s)).1⟩
  | blockComment =>
    refine ⟨s.regions, keeps_of_kind rfl ?_⟩
    dsimp only
    split
    · exact (Context.nesting_eq_iff.1 (nesting_breakLine s)).1
    · rfl
  | regex | templateMiddle | identifier | privateName | string | number | template | jsxName
  | jsxValue | jsxContent | whitespace | lineComment | stray | jsxStray =>
    exact ⟨s.regions, keeps_of_kind rfl rfl⟩

/-! ## Tags behind a `<` -/

theorem lessBeginsTag_of_script (h : s.region.isJsx = false) : s.LessBeginsTag := by
  intro hjsx
  rw [h] at hjsx
  cases hjsx

theorem lessBeginsTag_of_last (h : s.last ≠ .token ['<']) : s.LessBeginsTag :=
  fun _ hlast => absurd hlast h

theorem isJsx_afterPunctuator (hstacked : Stacked s.regions) (hregion : s.region.isJsx = false)
    (mark : Text) : (s.afterPunctuator mark).region.isJsx = false := by
  by_cases hopen : mark = ['(']
  · rw [hopen]
    show s.openParen.region.isJsx = false
    unfold Context.openParen
    split
    · rfl
    · exact hregion
  by_cases hclose : mark = [')']
  · rw [hclose]
    exact hstacked.isJsx_closeParen hregion
  · rw [Context.region, regions_afterPunctuator hopen hclose]
    exact hregion

theorem lessBeginsTag_breakLine (h : s.LessBeginsTag) : s.breakLine.LessBeginsTag := by
  intro hjsx hlast
  rw [region_breakLine] at hjsx ⊢
  obtain hsame | ⟨hjump, -⟩ := last_breakLine s
  · exact h hjsx (hsame ▸ hlast)
  · rw [hjump] at hlast
    cases hlast

theorem take_ne_less {c : Char} (hhead : text.head? = some c) (hc : c ≠ '<') (n : Nat) :
    text.take n ≠ ['<'] := by
  obtain ⟨rest, rfl⟩ := List.head?_eq_some_iff.1 hhead
  cases n with
  | zero => simp
  | succ n => simp [hc]

/-- In JSX, a `<` is always read by a rule. -/
theorem ne_less_of_stray {c : Char} {rest : Text} (hregion : s.region.isJsx = true)
    (hrules : ∀ rule ∈ s.region.rules jsx, rule s (c :: rest) = none) : c ≠ '<' := by
  rintro rfl
  obtain hscript | ⟨htag, hc⟩ | ⟨-, hc⟩ := (beginsNoToken_of_rules hrules).jsx_cases
  · simp [hregion] at hscript
  · exact hc (by decide)
  · simp at hc

/-- What lies right behind a `<` stays a tag. -/
theorem Takes.lessBeginsTag (h : Takes jsx s text step) (hstacked : Stacked s.regions)
    (hless : s.LessBeginsTag) : step.next.LessBeginsTag := by
  cases h with
  | regex hregion | identifier hregion | privateName hregion | string hregion | number hregion
  | template hregion | stray hregion => exact lessBeginsTag_of_script hregion
  | punctuator hregion =>
    exact lessBeginsTag_of_script (isJsx_afterPunctuator hstacked hregion _)
  | templateTail | jsxHoleEnd =>
    exact lessBeginsTag_of_last (by simp [Context.afterOperand, Context.seen, Context.withOperand])
  | templateMiddle | templateHead | openHole | childHole =>
    exact lessBeginsTag_of_last (by simp [Context.openTemplateHole, Context.openJsxHole,
      Context.seen, Context.withOperand])
  | tagStart | openTag | childTag => exact fun _ _ => rfl
  | closeTag =>
    refine lessBeginsTag_of_last ?_
    dsimp only [Context.closeTag]
    split <;> simp [Context.seen, Context.withOperand]
  | slash =>
    refine lessBeginsTag_of_last ?_
    dsimp only [Context.slashInTag]
    split <;> simp [Context.seen]
  | otherMark _ hmark =>
    refine lessBeginsTag_of_last ?_
    rintro ⟨⟩
    simp at hmark
  | jsxName _ hlength =>
    obtain ⟨c, hhead, hc⟩ := Lexeme.head?_of_jsxName hlength
    have hbegins : Unicode.beginsName '<' = false := by decide
    refine lessBeginsTag_of_last fun hlast => ?_
    refine take_ne_less hhead ?_ _ (Landmark.token.inj hlast)
    rintro rfl
    rw [hbegins] at hc
    cases hc
  | jsxValue _ hlength =>
    obtain ⟨c, hhead, hc⟩ := Lexeme.head?_of_jsxValue hlength
    refine lessBeginsTag_of_last fun hlast => ?_
    refine take_ne_less hhead ?_ _ (Landmark.token.inj hlast)
    rintro rfl
    cases hc
  | jsxContent _ hlength =>
    obtain ⟨c, hhead, hc⟩ := Lexeme.head?_of_runLength hlength
    refine lessBeginsTag_of_last fun hlast => ?_
    refine take_ne_less hhead ?_ _ (Landmark.token.inj hlast)
    rintro rfl
    cases hc
  | whitespace | lineComment => exact hless
  | lineBreak => exact lessBeginsTag_breakLine hless
  | blockComment =>
    dsimp only
    split
    · exact lessBeginsTag_breakLine hless
    · exact hless
  | jsxStray hregion hrules =>
    refine lessBeginsTag_of_last fun hlast => ne_less_of_stray hregion hrules ?_
    simpa [Context.afterOperator, Context.seen, Context.withOperand] using hlast

/-! ## Without JSX -/

/-- Whether tokens of this kind belong to JSX. -/
def Kind.isJsx : Kind → Bool
  | .jsxValue | .jsxContent | .jsxName | .jsxMark | .jsxStray => true
  | _ => false

/-- Without JSX, script only goes on to script. -/
theorem Takes.kind_isJsx (h : Takes false s text step) (hregion : s.region.isJsx = false)
    (hhole : ∀ depth, s.region ≠ .jsxHole depth) : step.kind.isJsx = false := by
  cases h with
  | jsxHoleEnd hregion => exact absurd hregion (hhole _)
  | tagStart _ hjsx => cases hjsx
  | openTag htag | closeTag htag | openHole htag | slash htag | otherMark htag | jsxName htag
  | jsxValue htag =>
    rw [isJsx_of_tag htag] at hregion
    cases hregion
  | jsxContent hchildren | childTag hchildren | childHole hchildren =>
    rw [hchildren] at hregion
    cases hregion
  | jsxStray hjsx =>
    rw [hregion] at hjsx
    cases hjsx
  | _ => rfl

theorem isJsx_of_mem_opens {region : Region} (hkind : token.kind.isJsx = false)
    (h : region ∈ token.opens s) : region.isJsx = false := by
  revert h
  unfold Token.opens
  split
  · split <;> simp +contextual [Region.isJsx]
  · simp +contextual [Region.isJsx]
  all_goals simp_all [Kind.isJsx]

end Steps

/-! ## Stacks -/

theorem Stacked.eq_append_script {regions : List Region} (h : Stacked regions) :
    ∃ inner, regions = inner ++ [.script] ∧ .script ∉ inner := by
  induction h with
  | script => exact ⟨[], rfl, by simp⟩
  | @cons region outer more hin _ ih =>
    obtain ⟨inner, hinner, hscript⟩ := ih
    refine ⟨region :: inner, by simp [hinner], ?_⟩
    rw [List.mem_cons, not_or]
    refine ⟨?_, hscript⟩
    rintro rfl
    cases hin

theorem Stacked.standsIn_of_append {above below : List Region} {inner outer : Region}
    (h : Stacked (above ++ inner :: outer :: below)) : inner.standsIn outer = true := by
  induction above with
  | nil =>
    cases h with
    | cons hin => exact hin
  | cons region above ih =>
    refine ih ?_
    rw [List.cons_append] at h
    generalize hmore : above ++ inner :: outer :: below = more at h
    cases h with
    | script => simp at hmore
    | cons _ h => exact h

/-- Where there is no JSX, there is no expression within JSX. -/
theorem Stacked.ne_jsxHole {regions : List Region} (h : Stacked regions)
    (hscript : ∀ region ∈ regions, region.isJsx = false) {region : Region} (hmem : region ∈ regions)
    (depth : Nat) : region ≠ .jsxHole depth := by
  induction h with
  | script =>
    rw [List.mem_singleton.1 hmem]
    simp
  | @cons inner outer more hin _ ih =>
    obtain rfl | hmem := List.mem_cons.1 hmem
    · rintro rfl
      rw [Region.standsIn, hscript outer (by simp)] at hin
      cases hin
    · exact ih (fun region hregion => hscript region (List.mem_cons_of_mem _ hregion)) hmem

/-! ## Every run -/

section Runs

variable {jsx : Bool} {text rest : Text} {seen : List Entry} {s : Context}

theorem Reached.lessBeginsTag (h : Reached jsx text seen s rest) : s.LessBeginsTag := by
  induction h with
  | start => exact lessBeginsTag_of_script rfl
  | hashbang => exact lessBeginsTag_of_script rfl
  | @step _ s rest hseen hrest _ ih =>
    exact (takes_step jsx s hrest).lessBeginsTag hseen.stacked ih

/-- What is kept is never nothing: no token closes the script around all regions. -/
theorem Keeps.ne_nil {next : Context} {token : Token} {kept : List Region}
    (h : Keeps s token next kept) (hstacked : Stacked s.regions) : kept ≠ [] := by
  rintro rfl
  obtain ⟨inner, hinner, -⟩ := hstacked.eq_append_script
  have hscript : .script ∈ s.regions := by simp [hinner]
  rw [h.1, List.append_nil] at hscript
  exact script_not_mem_closes token s hscript

/-- Every token that is read, read from the context before it. -/
theorem Reached.exists_keeps {entry : Entry} (h : Reached jsx text (seen ++ [entry]) s rest) :
    ∃ kept, Keeps (contextAfter {} seen) entry.1 entry.2 kept := by
  obtain ⟨rfl, lexeme, rfl⟩ | ⟨rest', step, hreached, htakes, rfl, -⟩ := h.last_cases
  · exact ⟨[.script], rfl, rfl⟩
  · exact htakes.exists_keeps hreached.stacked hreached.lessBeginsTag

/-- Without JSX, the lexer only comes to script, and reads no token of JSX. -/
theorem Reached.isJsx (h : Reached false text seen s rest) :
    (∀ region ∈ s.regions, region.isJsx = false) ∧
      ∀ entry ∈ seen, entry.1.kind.isJsx = false := by
  induction h with
  | start => simp [Region.isJsx]
  | hashbang => simp [Region.isJsx, Kind.isJsx]
  | @step seen s rest hseen hrest _ ih =>
    have htakes := takes_step false s hrest
    obtain ⟨hregions, hkinds⟩ := ih
    have hmem : s.region ∈ s.regions := by
      obtain ⟨inner, hinner, -⟩ := hseen.stacked.eq_append_script
      rw [Context.region, hinner]
      cases inner <;> simp
    have hkind := htakes.kind_isJsx (hregions _ hmem) (hseen.stacked.ne_jsxHole hregions hmem)
    obtain ⟨kept, hbefore, hafter⟩ := htakes.exists_keeps hseen.stacked hseen.lessBeginsTag
    constructor
    · intro region hregion
      rw [hafter, List.mem_append] at hregion
      obtain hopened | hkept := hregion
      · exact isJsx_of_mem_opens hkind hopened
      · exact hregions region (by simp [hbefore, hkept])
    · intro entry hentry
      obtain hentry | hentry := List.mem_append.1 hentry
      · exact hkinds entry hentry
      · rw [List.mem_singleton.1 hentry]
        exact hkind

end Runs

/-! ## The shape of the stack -/

/-- What the stack of regions looks like. -/
structure Context.WellStacked (s : Context) : Prop where
  /-- Script lies at the bottom, and nowhere else. -/
  bottom : ∃ inner, s.regions = inner ++ [.script] ∧ .script ∉ inner
  /-- An expression within JSX lies right on JSX; the head of a control statement and a substitution
      lie right on script. -/
  standsIn : ∀ above inner outer below, s.regions = above ++ inner :: outer :: below →
    inner.standsIn outer = true
  /-- Right behind a `<` in JSX there is a tag. -/
  lessBeginsTag : s.LessBeginsTag

/-- After any beginning of the tokens of a text, the regions lie on one another as they may.  The
    next token takes off just the regions that it means to close, so that something is left below
    them, and puts on it those that it opens.  Without JSX no region is part of JSX, and no token
    is. -/
theorem regions_shape {jsx : Bool} {text : Text} {seen later : List Entry}
    (htrace : text.trace jsx = seen ++ later) :
    (contextAfter {} seen).WellStacked ∧
      (∀ token next more, later = (token, next) :: more → ∃ kept, kept ≠ [] ∧
        (contextAfter {} seen).regions = token.closes (contextAfter {} seen) ++ kept ∧
        next.regions = token.opens (contextAfter {} seen) ++ kept) ∧
      (jsx = false →
        (∀ region ∈ (contextAfter {} seen).regions,
          region.isJsx = false ∧ ∀ depth, region ≠ .jsxHole depth) ∧
        ∀ entry ∈ seen, entry.1.kind.isJsx = false) := by
  obtain ⟨rest, hreached⟩ := reached_of_trace_eq htrace
  have hstacked := hreached.stacked
  refine ⟨⟨hstacked.eq_append_script, ?_, hreached.lessBeginsTag⟩, ?_, ?_⟩
  · intro above inner outer below hregions
    rw [hregions] at hstacked
    exact hstacked.standsIn_of_append
  · rintro token next more rfl
    rw [List.append_cons] at htrace
    obtain ⟨_, hnext⟩ := reached_of_trace_eq htrace
    obtain ⟨kept, hkept⟩ := hnext.exists_keeps
    exact ⟨kept, hkept.ne_nil hstacked, hkept.1, hkept.2⟩
  · rintro rfl
    obtain ⟨hregions, hkinds⟩ := hreached.isJsx
    exact ⟨fun region hmem => ⟨hregions region hmem, hstacked.ne_jsxHole hregions hmem⟩, hkinds⟩

/-- A closing tag that does not match: its slash closes the tag and the children of the inner
    element, and nothing of the outer one. -/
theorem regions_shape_closingTag :
    ((Text.trace true "x=<a><b></a>".toList).drop 9).head?.map Prod.fst =
        some ⟨.jsxMark, ['/']⟩ ∧
      ∃ kept, kept ≠ [] ∧
        (contextAfter {} ((Text.trace true "x=<a><b></a>".toList).take 9)).regions =
          [.jsxTag, .jsxChildren] ++ kept ∧
        (contextAfter {} ((Text.trace true "x=<a><b></a>".toList).take 10)).regions =
          [.jsxClosingTag] ++ kept := by
  let trace := Text.trace true "x=<a><b></a>".toList
  have hlater : trace.drop 9 =
      (⟨.jsxMark, ['/']⟩, contextAfter {} (trace.take 10)) :: trace.drop 10 := by
    decide +kernel
  have hcloses : Token.closes ⟨.jsxMark, ['/']⟩ (contextAfter {} (trace.take 9)) =
      [.jsxTag, .jsxChildren] := by
    decide +kernel
  have hopens : Token.opens ⟨.jsxMark, ['/']⟩ (contextAfter {} (trace.take 9)) =
      [.jsxClosingTag] := by
    decide +kernel
  obtain ⟨-, hstep, -⟩ := regions_shape (List.take_append_drop 9 trace).symm
  obtain ⟨kept, hne, hbefore, hafter⟩ := hstep _ _ _ hlater
  exact ⟨by decide +kernel, kept, hne, hcloses ▸ hbefore, hopens ▸ hafter⟩

end SyntaxColor
