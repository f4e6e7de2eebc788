/-
  What a step does to the nesting around it.

  `shifts_step`: a step opens a bracket, closes one, or only leaves and enters regions of JSX.
  `Stacked`: the regions around a context, and what each of them may stand in; every step keeps
  them so (`Stacked.step`), and with that every run (`Reached.stacked`).
-/
import SyntaxColor.Proofs.Nesting.Around
import SyntaxColor.Proofs.Token.Run

namespace SyntaxColor

/-! ## Brackets -/

/-- Whether a token opens or closes a bracket. -/
def Token.isBracket (token : Token) : Bool :=
  match token.kind with
  | .punctuator => token.text ∈ [['('], [')'], ['{'], ['}']]
  | .jsxMark => token.text ∈ [['{'], ['}']]
  | .templateHead | .templateTail => true
  | _ => false

/-- `JsxShift s s'`: from `s` to `s'` regions of JSX are left and entered; nothing else of the
    nesting changes. -/
inductive JsxShift : Context → Context → Prop
  | done {s s' : Context} (h : s'.nesting = s.nesting) : JsxShift s s'
  | leave {s s' : Context} (hs : s.region.isJsx = true) (h : JsxShift s.leave s') : JsxShift s s'
  | enter {s s' : Context} {region : Region} (hregion : region.isJsx = true)
      (h : JsxShift (s.enter region) s') : JsxShift s s'

/-- What a token does to the nesting around it. -/
inductive Shifts (s : Context) : Token → Context → Prop
  | quiet {token : Token} {next : Context} (hquiet : token.isBracket = false)
      (h : JsxShift s next) : Shifts s token next
  | openParen (hregion : s.region.isJsx = false) : Shifts s ⟨.punctuator, ['(']⟩ s.openParen
  | closeParen (hregion : s.region.isJsx = false) : Shifts s ⟨.punctuator, [')']⟩ s.closeParen
  | openBrace (hregion : s.region.isJsx = false) : Shifts s ⟨.punctuator, ['{']⟩ s.openBrace
  | closeBrace (hregion : s.region.isJsx = false) : Shifts s ⟨.punctuator, ['}']⟩ s.closeBrace
  | openTemplateHole {text : Text} (hregion : s.region.isJsx = false) :
      Shifts s ⟨.templateHead, text⟩ s.openTemplateHole
  | closeTemplateHole {text : Text} {next : Context}
      (hregion : s.region = .templateHole s.openBraces.length)
      (h : next.nesting = s.leave.nesting) : Shifts s ⟨.templateTail, text⟩ next
  | openJsxHole (hregion : s.region.isJsx = true) : Shifts s ⟨.jsxMark, ['{']⟩ s.openJsxHole
  | closeJsxHole {next : Context} (hregion : s.region = .jsxHole s.openBraces.length)
      (h : next.nesting = s.leave.nesting) : Shifts s ⟨.jsxMark, ['}']⟩ next
  /-- A brace in a tag that closes nothing. -/
  | looseBrace {next : Context} (hregion : s.region = .jsxTag ∨ s.region = .jsxClosingTag)
      (h : next.nesting = s.nesting) : Shifts s ⟨.jsxMark, ['}']⟩ next

section Steps

variable {s : Context}

theorem isJsx_of_tag (h : s.region = .jsxTag ∨ s.region = .jsxClosingTag) :
    s.region.isJsx = true := by
  obtain h | h := h <;> rw [h] <;> rfl

theorem jsxShift_openTag (s : Context) : JsxShift s s.openTag := .enter rfl (.done rfl)

theorem jsxShift_closeTag (hs : s.region.isJsx = true) : JsxShift s s.closeTag := by
  unfold Context.closeTag
  split
  · exact .leave hs (.done rfl)
  · exact .leave hs (.enter rfl (.done rfl))

theorem jsxShift_slashInTag (hs : s.region.isJsx = true) : JsxShift s s.slashInTag := by
  unfold Context.slashInTag
  split
  · dsimp only
    split
    · next hchildren => exact .leave hs (.leave (by rw [hchildren]; rfl) (.enter rfl (.done rfl)))
    · exact .leave hs (.enter rfl (.done rfl))
  · exact .done rfl

theorem nesting_afterPunctuator {mark : Text} (h : mark ∉ [['('], [')'], ['{'], ['}']]) :
    (s.afterPunctuator mark).nesting = s.nesting := by
  unfold Context.afterPunctuator
  split <;> simp_all [Context.update]

theorem nesting_breakLine (s : Context) : s.breakLine.nesting = s.nesting := by
  unfold Context.breakLine
  split
  · split <;> rfl
  · rfl

theorem shifts_punctuator (hregion : s.region.isJsx = false) (mark : Text) :
    Shifts s ⟨.punctuator, mark⟩ (s.afterPunctuator mark) := by
  by_cases hmark : mark ∈ [['('], [')'], ['{'], ['}']]
  · simp only [List.mem_cons, List.not_mem_nil, or_false] at hmark
    obtain rfl | rfl | rfl | rfl := hmark
    · exact .openParen hregion
    · exact .closeParen hregion
    · exact .openBrace hregion
    · exact .closeBrace hregion
  · exact .quiet (by simpa [Token.isBracket] using hmark) (.done (nesting_afterPunctuator hmark))

/-- What a step does to the nesting. -/
theorem shifts_step {jsx : Bool} {text : Text} {step : Step} (h : Takes jsx s text step) :
    Shifts s (step.entry text).1 step.next := by
  cases h with
  | punctuator hregion => exact shifts_punctuator hregion _
  | templateTail hregion => exact .closeTemplateHole hregion rfl
  | templateHead hregion => exact .openTemplateHole hregion
  | jsxHoleEnd hregion => exact .closeJsxHole hregion rfl
  | openHole hregion => exact .openJsxHole (isJsx_of_tag hregion)
  | childHole hregion => exact .openJsxHole (by rw [hregion]; rfl)
  | tagStart | openTag | childTag => exact .quiet rfl (jsxShift_openTag s)
  | closeTag hregion => exact .quiet rfl (jsxShift_closeTag (isJsx_of_tag hregion))
  | slash hregion => exact .quiet rfl (jsxShift_slashInTag (isJsx_of_tag hregion))
  | otherMark hregion hmark =>
    simp only [List.mem_cons, List.not_mem_nil, or_false] at hmark
    obtain rfl | rfl | rfl | rfl := hmark
    · exact .quiet rfl (.done rfl)
    · exact .quiet rfl (.done rfl)
    · exact .quiet rfl (.done rfl)
    · exact .looseBrace hregion rfl
  | regex | identifier | privateName | string | number | template | templateMiddle | jsxName
  | jsxValue | jsxContent | whitespace | lineComment | stray | jsxStray =>
    exact .quiet rfl (.done rfl)
  | lineBreak => exact .quiet rfl (.done (nesting_breakLine s))
  | blockComment =>
    refine .quiet rfl (.done ?_)
    dsimp only
    split
    · exact nesting_breakLine s
    · rfl

end Steps

/-! ## Regions in one another -/

/-- Whether a region may stand right inside another one. -/
def Region.standsIn (inner outer : Region) : Bool :=
  match inner with
  | .script => false
  | .controlHead _ | .templateHole _ => !outer.isJsx
  | .jsxHole _ => outer.isJsx
  | .jsxTag | .jsxClosingTag | .jsxChildren => true

/-- Regions each of which may stand in the next one, up to the script around them all. -/
inductive Stacked : List Region → Prop
  | script : Stacked [.script]
  | cons {inner outer : Region} {more : List Region} (hin : inner.standsIn outer = true)
      (h : Stacked (outer :: more)) : Stacked (inner :: outer :: more)

section Stacked

variable {s s' : Context} {token : Token} {next : Context}

theorem Stacked.enter (h : Stacked s.regions) {region : Region}
    (hin : region.standsIn s.region = true) : Stacked (s.enter region).regions := by
  obtain ⟨outer, more, hregions⟩ : ∃ outer more, s.regions = outer :: more := by
    cases hregions : s.regions with
    | nil => rw [hregions] at h; cases h
    | cons outer more => exact ⟨outer, more, rfl⟩
  rw [Context.region, hregions] at hin
  rw [Context.enter, hregions]
  exact .cons hin (hregions ▸ h)

theorem Stacked.leave (h : Stacked s.regions) : Stacked s.leave.regions := by
  unfold Context.leave
  split
  · next inner outer more hregions =>
    rw [hregions] at h
    cases h with
    | cons _ h => exact h
  · exact h

/-- To leave a region takes it away, unless it is the script around all the others. -/
theorem Stacked.regions_eq (h : Stacked s.regions) (hregion : s.region ≠ .script) :
    s.regions = s.region :: s.leave.regions := by
  cases hregions : s.regions with
  | nil => rw [hregions] at h; cases h
  | cons inner outer =>
    cases outer with
    | nil =>
      rw [hregions] at h
      cases h
      exact absurd (by rw [Context.region, hregions]; rfl) hregion
    | cons outer more => simp [Context.region, Context.leave, hregions]

/-- A region may stand in the one to which it is left. -/
theorem Stacked.standsIn (h : Stacked s.regions) (hregion : s.region ≠ .script) :
    s.region.standsIn s.leave.region = true := by
  have hregions := h.regions_eq hregion
  generalize s.region = inner at hregions hregion
  rw [hregions] at h
  cases hmore : s.leave.regions with
  | nil =>
    rw [hmore] at h
    cases h
    exact absurd rfl hregion
  | cons outer more =>
    rw [hmore] at h
    rw [Context.region, hmore]
    cases h with
    | cons hin => exact hin

/-- The head of a control statement and a substitution stand in script. -/
theorem Stacked.isJsx_leave (h : Stacked s.regions)
    (hregion : (∃ depth, s.region = .controlHead depth) ∨
      ∃ depth, s.region = .templateHole depth) :
    s.leave.region.isJsx = false := by
  have hin : s.region.standsIn s.leave.region = true := by
    refine h.standsIn ?_
    obtain ⟨_, hregion⟩ | ⟨_, hregion⟩ := hregion <;> simp [hregion]
  obtain ⟨_, hregion⟩ | ⟨_, hregion⟩ := hregion
  all_goals
    rw [hregion] at hin
    exact (Bool.not_eq_true' _).mp hin

theorem Stacked.jsxShift (h : Stacked s.regions) (hshift : JsxShift s s') :
    Stacked s'.regions := by
  induction hshift with
  | done hnesting =>
    rw [(Context.nesting_eq_iff.1 hnesting).1]
    exact h
  | leave _ _ ih => exact ih h.leave
  | @enter s _ region hregion _ ih =>
    have hin : region.standsIn s.region = true := by
      cases region <;> first | rfl | simp [Region.isJsx] at hregion
    exact ih (h.enter hin)

theorem Stacked.openParen (h : Stacked s.regions) (hregion : s.region.isJsx = false) :
    Stacked s.openParen.regions := by
  unfold Context.openParen
  split
  · exact h.enter (by simp [Region.standsIn, hregion])
  · exact h

theorem Stacked.closeParen (h : Stacked s.regions) : Stacked s.closeParen.regions := by
  unfold Context.closeParen
  dsimp only
  split
  · exact Stacked.leave (s := { s with parenDepth := s.parenDepth - 1 }) h
  · exact h

/-- What comes behind the head of a control statement is script, as the head is. -/
theorem Stacked.isJsx_closeParen (h : Stacked s.regions) (hregion : s.region.isJsx = false) :
    s.closeParen.region.isJsx = false := by
  rw [Context.closeParen]
  dsimp only
  split
  · next hhead =>
    have hleave : (Context.leave { s with parenDepth := s.parenDepth - 1 }).region =
        s.leave.region := by
      rw [Context.region, Context.region, Context.regions_leave_congr]
      rfl
    have hscript := h.isJsx_leave (.inl ⟨_, hhead⟩)
    rw [← hleave] at hscript
    exact hscript
  · exact hregion

theorem regions_closeBrace (s : Context) : s.closeBrace.regions = s.regions := by
  unfold Context.closeBrace
  dsimp only
  split <;> rfl

/-- Every step keeps the regions in one another. -/
theorem Stacked.step (h : Stacked s.regions) (hshift : Shifts s token next) :
    Stacked next.regions := by
  cases hshift with
  | quiet _ hjsx => exact h.jsxShift hjsx
  | openParen hregion => exact h.openParen hregion
  | closeParen => exact h.closeParen
  | openBrace => exact h
  | closeBrace =>
    rw [regions_closeBrace]
    exact h
  | openTemplateHole hregion => exact h.enter (by simp [Region.standsIn, hregion])
  | closeTemplateHole _ hnesting | closeJsxHole _ hnesting =>
    rw [(Context.nesting_eq_iff.1 hnesting).1]
    exact h.leave
  | openJsxHole hregion => exact h.enter hregion
  | looseBrace _ hnesting =>
    rw [(Context.nesting_eq_iff.1 hnesting).1]
    exact h

end Stacked

/-- Wherever the lexer comes, the regions are in one another. -/
theorem Reached.stacked {jsx : Bool} {text rest : Text} {seen : List Entry} {s : Context}
    (h : Reached jsx text seen s rest) : Stacked s.regions := by
  induction h with
  | start => exact .script
  | hashbang => exact .script
  | @step _ s rest _ hrest _ ih =>
    exact ih.step (shifts_step (takes_step jsx s hrest))

end SyntaxColor
