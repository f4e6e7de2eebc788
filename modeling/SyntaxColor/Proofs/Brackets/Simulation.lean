/-
  The brackets that are open, and what the lexer keeps of them.

  `openers` reads off the tokens which brackets are open, as a stack; it gives nothing once a
  closing bracket does not fit the last one that was opened.  The lexer has no such stack: it keeps
  regions, flags and a number.  `Encodes` says how these together tell the stack; every step keeps
  this (`Encodes.step`), and with that every run (`Reached.encodes`).

  `brackets_simulated`: what the lexer keeps after any beginning of the tokens of a text, and what
  it makes of a closing parenthesis there.
-/
import SyntaxColor.Proofs.Operand.Sign

namespace SyntaxColor

/-! ## Open brackets -/

/-- A bracket that is open. -/
inductive Opener where
  /-- A parenthesis, and whether it stands behind a control keyword. -/
  | paren (control : Bool)
  /-- A brace of the script, and whether it opened an object. -/
  | brace (object : Bool)
  /-- The opening of a substitution in a template literal. -/
  | templateHole
  /-- The brace that opens an expression within JSX. -/
  | jsxHole
  deriving DecidableEq

namespace Opener

/-- Whether the bracket is a parenthesis. -/
def isParen : Opener → Bool
  | paren _ => true
  | _ => false

/-- Whether the bracket opened an object, for a brace of the script. -/
def object? : Opener → Option Bool
  | brace object => some object
  | _ => none

/-- Whether the bracket opens script in a template literal or in JSX. -/
def isHole : Opener → Bool
  | templateHole | jsxHole => true
  | _ => false

theorem of_isHole {opener : Opener} (h : opener.isHole = true) :
    opener.isParen = false ∧ opener.object? = none := by
  cases opener with
  | paren | brace => cases h
  | templateHole | jsxHole => exact ⟨rfl, rfl⟩

end Opener

/-- The brackets outside the last one, if that is one that `fits`. -/
def closed? (fits : Opener → Bool) : List Opener → Option (List Opener)
  | opener :: outer => if fits opener then some outer else none
  | [] => none

/-- The open brackets after a token, from those before it; `s` is the context before it, and `past`
    are the tokens before it, the last one first.  There are none if a closing bracket does not fit,
    or if a brace stands in a tag where it closes nothing. -/
def openersAfter (s : Context) (past : List Token) (opened : List Opener) (token : Token) :
    Option (List Opener) :=
  match token.kind, token.text with
  | .punctuator, ['('] => some (.paren (endsInControlKeyword past) :: opened)
  | .punctuator, ['{'] => some (.brace s.opensObject :: opened)
  | .templateHead, _ => some (.templateHole :: opened)
  | .jsxMark, ['{'] => some (.jsxHole :: opened)
  | .punctuator, [')'] => closed? Opener.isParen opened
  | .punctuator, ['}'] => closed? (fun opener => opener.object?.isSome) opened
  | .templateTail, _ => closed? (fun opener => opener = .templateHole) opened
  | .jsxMark, ['}'] =>
    if s.region = .jsxTag ∨ s.region = .jsxClosingTag then none
    else closed? (fun opener => opener = .jsxHole) opened
  | _, _ => some opened

/-- The open brackets after more tokens. -/
def openersFrom (s : Context) (past : List Token) (opened : List Opener) :
    List Entry → Option (List Opener)
  | [] => some opened
  | (token, next) :: more =>
    (openersAfter s past opened token).bind fun opened =>
      openersFrom next (token :: past) opened more

/-- The brackets that are open after these tokens, the last one first, as long as every closing
    bracket fits. -/
def openers (seen : List Entry) : Option (List Opener) := openersFrom {} [] [] seen

theorem openersFrom_append (s : Context) (past : List Token) (opened : List Opener)
    (seen : List Entry) (entry : Entry) :
    openersFrom s past opened (seen ++ [entry]) =
      (openersFrom s past opened seen).bind fun opened =>
        openersAfter (contextAfter s seen) (pastOf seen ++ past) opened entry.1 := by
  induction seen generalizing s past opened with
  | nil => simp [openersFrom, contextAfter, pastOf]
  | cons first seen ih =>
    rw [List.cons_append, openersFrom, openersFrom]
    cases openersAfter s past opened first.1 with
    | none => rfl
    | some opened => simp [ih, contextAfter, pastOf]

theorem openers_append (seen : List Entry) (entry : Entry) :
    openers (seen ++ [entry]) = (openers seen).bind fun opened =>
      openersAfter (contextAfter {} seen) (pastOf seen) opened entry.1 := by
  rw [openers, openers, openersFrom_append, List.append_nil]

/-! ## What the lexer keeps of them -/

/-- The regions of script that these brackets open, around one another: each tells the depth at
    which its bracket was opened. -/
def scriptRegions : List Opener → List Region
  | [] => [.script]
  | .paren true :: outer => .controlHead (outer.countP Opener.isParen) :: scriptRegions outer
  | .templateHole :: outer =>
    .templateHole (outer.filterMap Opener.object?).length :: scriptRegions outer
  | .jsxHole :: outer => .jsxHole (outer.filterMap Opener.object?).length :: scriptRegions outer
  | .paren false :: outer | .brace _ :: outer => scriptRegions outer

/-- The bracket that opens a region of script in a template literal or in JSX. -/
def Region.hole? : Region → Option Opener
  | .templateHole _ => some .templateHole
  | .jsxHole _ => some .jsxHole
  | _ => none

/-- What the context keeps tells the open brackets. -/
structure Encodes (s : Context) (opened : List Opener) : Prop where
  regions : s.regions.filter (fun region => !region.isJsx) = scriptRegions opened
  openBraces : s.openBraces = opened.filterMap Opener.object?
  parenDepth : s.parenDepth = opened.countP Opener.isParen

section Encodes

variable {s s' next : Context} {opened outer : List Opener} {token : Token} {past : List Token}

theorem closed?_eq_some {fits : Opener → Bool} (h : closed? fits opened = some outer) :
    ∃ opener, opened = opener :: outer ∧ fits opener = true := by
  unfold closed? at h
  split at h
  · next opener _ =>
    split at h
    · next hfits =>
      obtain rfl := Option.some.inj h
      exact ⟨opener, rfl, hfits⟩
    · cases h
  · cases h

theorem openersAfter_of_quiet (h : token.isBracket = false) :
    openersAfter s past opened token = some opened := by
  unfold openersAfter
  split <;> simp_all [Token.isBracket]

theorem Encodes.congr (h : Encodes s opened) (hnesting : s'.nesting = s.nesting) :
    Encodes s' opened := by
  obtain ⟨hregions, hbraces, hdepth⟩ := Context.nesting_eq_iff.1 hnesting
  refine ⟨?_, ?_, ?_⟩
  · rw [hregions]
    exact h.regions
  · rw [hbraces]
    exact h.openBraces
  · rw [hdepth]
    exact h.parenDepth

/-! ### Regions -/

/-- The brackets stay as they are in a region of JSX that is left. -/
theorem Encodes.leave_jsx (h : Encodes s opened) (hstacked : Stacked s.regions)
    (hjsx : s.region.isJsx = true) : Encodes s.leave opened := by
  have hne : s.region ≠ .script := by
    intro hscript
    rw [hscript] at hjsx
    cases hjsx
  have hregions := h.regions
  rw [hstacked.regions_eq hne, List.filter_cons_of_neg (by simp [hjsx])] at hregions
  exact ⟨hregions, by simp [h.openBraces], by simp [h.parenDepth]⟩

theorem Encodes.jsxShift (h : Encodes s opened) (hstacked : Stacked s.regions)
    (hshift : JsxShift s s') : Encodes s' opened := by
  induction hshift with
  | done hnesting => exact h.congr hnesting
  | leave hjsx _ ih => exact ih (h.leave_jsx hstacked hjsx) hstacked.leave
  | enter hjsx _ ih =>
    refine ih ⟨?_, h.openBraces, h.parenDepth⟩ (hstacked.jsxShift (.enter hjsx (.done rfl)))
    rw [Context.enter, List.filter_cons_of_neg (by simp [hjsx])]
    exact h.regions

/-- In script, the innermost region is the first one that the open brackets tell. -/
theorem Encodes.scriptRegions_eq (h : Encodes s opened) (hstacked : Stacked s.regions)
    (hregion : s.region.isJsx = false) :
    ∃ more, s.regions = s.region :: more ∧
      scriptRegions opened = s.region :: more.filter (fun region => !region.isJsx) := by
  cases hregions : s.regions with
  | nil => rw [hregions] at hstacked; cases hstacked
  | cons inner more =>
    have hinner : s.region = inner := by rw [Context.region, hregions]; rfl
    rw [hinner] at hregion ⊢
    refine ⟨more, rfl, ?_⟩
    rw [← h.regions, hregions, List.filter_cons_of_pos (by simp [hregion])]

/-- To leave the region that the last bracket opened is to be back before that bracket. -/
theorem Encodes.leave_script {region : Region} (h : Encodes s opened) (hstacked : Stacked s.regions)
    (hregion : s.region.isJsx = false)
    (hopened : scriptRegions opened = region :: scriptRegions outer) (hne : region ≠ .script) :
    s.region = region ∧
      s.leave.regions.filter (fun region => !region.isJsx) = scriptRegions outer := by
  obtain ⟨more, hregions, hmore⟩ := h.scriptRegions_eq hstacked hregion
  obtain ⟨rfl, houter⟩ := List.cons.inj (hmore.symm.trans hopened)
  refine ⟨rfl, ?_⟩
  rw [← houter, ← (List.cons.inj ((hstacked.regions_eq hne).symm.trans hregions)).2]

theorem filterMap_hole?_scriptRegions (opened : List Opener) :
    (scriptRegions opened).filterMap Region.hole? = opened.filter Opener.isHole := by
  induction opened with
  | nil => rfl
  | cons opener outer ih =>
    cases opener with
    | paren control => cases control <;> exact ih
    | brace => exact ih
    | templateHole => exact congrArg (Opener.templateHole :: ·) ih
    | jsxHole => exact congrArg (Opener.jsxHole :: ·) ih

/-- Of the regions, those in template literals and JSX are those of the open brackets. -/
theorem Encodes.holes (h : Encodes s opened) :
    s.regions.filterMap Region.hole? = opened.filter Opener.isHole := by
  have hjsx : ∀ region : Region,
      (if !region.isJsx then region.hole? else none) = region.hole? := by
    intro region
    cases region <;> rfl
  rw [← filterMap_hole?_scriptRegions, ← h.regions, List.filterMap_filter]
  exact (congrArg (List.filterMap · s.regions) (funext hjsx)).symm

/-! ### Parentheses -/

theorem lt_of_mem_scriptRegions {depth : Int} (h : .controlHead depth ∈ scriptRegions opened) :
    depth < opened.countP Opener.isParen := by
  induction opened with
  | nil => simp [scriptRegions] at h
  | cons opener outer ih =>
    cases opener with
    | paren control =>
      rw [List.countP_cons_of_pos rfl]
      cases control with
      | true =>
        obtain heq | hmem := List.mem_cons.1 h
        · obtain rfl := Region.controlHead.inj heq
          omega
        · have := ih hmem
          omega
      | false =>
        have := ih h
        omega
    | brace object =>
      rw [List.countP_cons_of_neg (by simp [Opener.isParen])]
      exact ih h
    | templateHole | jsxHole =>
      rw [List.countP_cons_of_neg (by simp [Opener.isParen])]
      obtain heq | hmem := List.mem_cons.1 h
      · cases heq
      · exact ih hmem

theorem Encodes.parenDepth_eq {control : Bool} (h : Encodes s (.paren control :: outer)) :
    s.parenDepth = outer.countP Opener.isParen + 1 := by
  rw [h.parenDepth, List.countP_cons_of_pos rfl]
  rfl

/-- A parenthesis closes the head of a control statement if and only if the one that it closes
    stands behind a control keyword. -/
theorem Encodes.region_eq_controlHead_iff {control : Bool}
    (h : Encodes s (.paren control :: outer)) (hstacked : Stacked s.regions)
    (hregion : s.region.isJsx = false) :
    s.region = .controlHead (s.parenDepth - 1) ↔ control = true := by
  obtain ⟨more, -, hmore⟩ := h.scriptRegions_eq hstacked hregion
  have hdepth := h.parenDepth_eq
  cases control with
  | true =>
    rw [scriptRegions] at hmore
    rw [← (List.cons.inj hmore).1, hdepth, Int.add_sub_cancel]
    simp
  | false =>
    -- The region may be the head of a control statement further out, which has a lower depth.
    rw [scriptRegions] at hmore
    refine ⟨fun heq => ?_, fun h => by cases h⟩
    have hmem : .controlHead (s.parenDepth - 1) ∈ scriptRegions outer := by
      rw [hmore, heq]
      exact List.mem_cons_self ..
    have := lt_of_mem_scriptRegions hmem
    omega

theorem Encodes.openParen {control : Bool} (h : Encodes s opened)
    (hcontrol : s.last = .controlKeyword ↔ control = true) :
    Encodes s.openParen (.paren control :: opened) := by
  have hdepth : s.parenDepth + 1 = (Opener.paren control :: opened).countP Opener.isParen := by
    rw [h.parenDepth, List.countP_cons_of_pos rfl]
    rfl
  cases control with
  | true =>
    rw [Context.openParen, if_pos (hcontrol.2 rfl)]
    refine ⟨?_, h.openBraces, hdepth⟩
    rw [scriptRegions, ← h.regions, ← h.parenDepth]
    rfl
  | false =>
    rw [Context.openParen, if_neg (by simp [hcontrol])]
    exact ⟨h.regions, h.openBraces, hdepth⟩

theorem Encodes.closeParen {control : Bool} (h : Encodes s (.paren control :: outer))
    (hstacked : Stacked s.regions) (hregion : s.region.isJsx = false) :
    Encodes s.closeParen outer ∧
      s.closeParen.last = if control then .controlHeadEnd else .token [')'] := by
  have hhead := h.region_eq_controlHead_iff hstacked hregion
  have hdepth : s.parenDepth - 1 = outer.countP Opener.isParen := by
    rw [h.parenDepth_eq, Int.add_sub_cancel]
  cases control with
  | true =>
    obtain ⟨-, hregions⟩ := h.leave_script hstacked hregion rfl (by simp)
    rw [Context.closeParen, if_pos (hhead.2 rfl)]
    refine ⟨⟨?_, ?_, ?_⟩, rfl⟩
    · rw [← hregions]
      exact congrArg (List.filter _) (Context.regions_leave_congr rfl)
    · exact (Context.openBraces_leave _).trans h.openBraces
    · exact (Context.parenDepth_leave _).trans hdepth
  | false =>
    rw [Context.closeParen, if_neg (by simpa using hhead)]
    exact ⟨⟨h.regions, h.openBraces, hdepth⟩, rfl⟩

/-! ### Braces -/

theorem Encodes.openBrace (h : Encodes s opened) :
    Encodes s.openBrace (.brace s.opensObject :: opened) := by
  refine ⟨h.regions, ?_, ?_⟩
  · exact congrArg (s.opensObject :: ·) h.openBraces
  · rw [List.countP_cons_of_neg (by simp [Opener.isParen])]
    exact h.parenDepth

theorem Encodes.closeBrace {object : Bool} (h : Encodes s (.brace object :: outer)) :
    Encodes s.closeBrace outer := by
  have hbraces : s.openBraces.tail = outer.filterMap Opener.object? := by
    rw [h.openBraces]
    rfl
  have hdepth : s.parenDepth = outer.countP Opener.isParen := by
    rw [h.parenDepth, List.countP_cons_of_neg (by simp [Opener.isParen])]
  unfold Context.closeBrace
  dsimp only
  split
  · exact ⟨h.regions, hbraces, hdepth⟩
  · exact ⟨h.regions, hbraces, hdepth⟩

/-! ### Script within templates and JSX -/

/-- Script that opens within a template literal or JSX. -/
theorem Encodes.enter_hole {opener : Opener} {region : Region} (h : Encodes s opened)
    (hhole : opener.isHole = true) (hregion : region.isJsx = false)
    (hregions : scriptRegions (opener :: opened) = region :: scriptRegions opened) :
    Encodes (s.enter region) (opener :: opened) := by
  obtain ⟨hparen, hobject⟩ := Opener.of_isHole hhole
  refine ⟨?_, ?_, ?_⟩
  · rw [hregions, ← h.regions]
    exact List.filter_cons_of_pos (by simp [hregion])
  · rw [List.filterMap_cons_none hobject]
    exact h.openBraces
  · rw [List.countP_cons_of_neg (by simp [hparen])]
    exact h.parenDepth

theorem Encodes.openTemplateHole (h : Encodes s opened) :
    Encodes s.openTemplateHole (.templateHole :: opened) :=
  (h.enter_hole rfl rfl (by rw [scriptRegions, h.openBraces])).congr rfl

theorem Encodes.openJsxHole (h : Encodes s opened) :
    Encodes s.openJsxHole (.jsxHole :: opened) :=
  (h.enter_hole rfl rfl (by rw [scriptRegions, h.openBraces])).congr rfl

/-- Script that ends within a template literal or JSX. -/
theorem Encodes.leave_hole {opener : Opener} (h : Encodes s (opener :: outer))
    (hstacked : Stacked s.regions) (hregion : s.region.isJsx = false)
    (hhole : opener.isHole = true) : Encodes s.leave outer := by
  obtain ⟨hparen, hobject⟩ := Opener.of_isHole hhole
  refine ⟨?_, ?_, ?_⟩
  · cases opener with
    | paren | brace => cases hhole
    | templateHole => exact (h.leave_script hstacked hregion rfl (by simp)).2
    | jsxHole => exact (h.leave_script hstacked hregion rfl (by simp)).2
  · rw [Context.openBraces_leave, h.openBraces, List.filterMap_cons_none hobject]
  · rw [Context.parenDepth_leave, h.parenDepth, List.countP_cons_of_neg (by simp [hparen])]

/-! ### Every run -/

/-- Every step with which the closing brackets fit keeps what tells the open brackets. -/
theorem Encodes.step (h : Encodes s opened) (hstacked : Stacked s.regions)
    (hremembers : Remembers s past) (hshift : Shifts s token next)
    (hopened : openersAfter s past opened token = some outer) : Encodes next outer := by
  cases hshift with
  | quiet hquiet hjsx =>
    rw [openersAfter_of_quiet hquiet] at hopened
    obtain rfl := Option.some.inj hopened
    exact h.jsxShift hstacked hjsx
  | openParen =>
    obtain rfl := Option.some.inj hopened
    refine h.openParen ?_
    rw [← hremembers.controlKeyword, Landmark.isControlKeyword_iff]
  | closeParen hregion =>
    obtain ⟨opener, rfl, hfits⟩ := closed?_eq_some hopened
    cases opener with
    | paren => exact (h.closeParen hstacked hregion).1
    | _ => cases hfits
  | openBrace =>
    obtain rfl := Option.some.inj hopened
    exact h.openBrace
  | closeBrace =>
    obtain ⟨opener, rfl, hfits⟩ := closed?_eq_some hopened
    cases opener with
    | brace => exact h.closeBrace
    | _ => cases hfits
  | openTemplateHole =>
    obtain rfl := Option.some.inj hopened
    exact h.openTemplateHole
  | closeTemplateHole hregion hnesting =>
    obtain ⟨opener, rfl, hfits⟩ := closed?_eq_some hopened
    obtain rfl := of_decide_eq_true hfits
    exact (h.leave_hole hstacked (by rw [hregion]; rfl) rfl).congr hnesting
  | openJsxHole =>
    obtain rfl := Option.some.inj hopened
    exact h.openJsxHole
  | closeJsxHole hregion hnesting =>
    have hscript : ¬ (s.region = .jsxTag ∨ s.region = .jsxClosingTag) := by simp [hregion]
    obtain ⟨opener, rfl, hfits⟩ := closed?_eq_some ((if_neg hscript).symm.trans hopened)
    obtain rfl := of_decide_eq_true hfits
    exact (h.leave_hole hstacked (by rw [hregion]; rfl) rfl).congr hnesting
  | looseBrace hregion =>
    have hnone := (if_pos hregion).symm.trans hopened
    cases hnone

end Encodes

/-- As long as the closing brackets fit, what the lexer keeps tells the open brackets. -/
theorem Reached.encodes {jsx : Bool} {text rest : Text} {seen : List Entry} {s : Context}
    {opened : List Opener} (h : Reached jsx text seen s rest)
    (hopened : openers seen = some opened) : Encodes s opened := by
  induction h generalizing opened with
  | start =>
    obtain rfl := Option.some.inj hopened
    exact ⟨rfl, rfl, rfl⟩
  | hashbang =>
    obtain rfl := Option.some.inj hopened
    exact ⟨rfl, rfl, rfl⟩
  | @step seen s rest hseen hrest _ ih =>
    rw [openers_append] at hopened
    obtain ⟨before, hbefore, hafter⟩ := Option.bind_eq_some_iff.1 hopened
    rw [← hseen.context_eq] at hafter
    exact (ih hbefore).step hseen.stacked hseen.remembers (shifts_step (takes_step jsx s hrest))
      hafter

/-! ## Behind a closing parenthesis -/

section Slash

variable {jsx : Bool} {text rest : Text} {seen trivia : List Entry} {s : Context}

/-- What a parenthesis closes tells whether an expression may follow behind it. -/
theorem Reached.closeParen {next : Context} {control : Bool} {outer : List Opener}
    (h : Reached jsx text (seen ++ [(⟨.punctuator, [')']⟩, next)]) s rest)
    (hopened : openers seen = some (.paren control :: outer)) :
    next.region.isJsx = false ∧ next.last = if control then .controlHeadEnd else .token [')'] := by
  have hseen : seen ≠ [] := by
    rintro rfl
    cases hopened
  obtain ⟨s', rest', step, hreached, htakes, hentry⟩ := h.exists_takes hseen
  have hshift : Shifts s' (step.entry rest').1 (step.entry rest').2 := shifts_step htakes
  rw [← hentry] at hshift
  cases hshift with
  | quiet hquiet => cases hquiet
  | closeParen hregion =>
    have hlast := ((hreached.encodes hopened).closeParen hreached.stacked hregion).2
    exact ⟨hreached.stacked.isJsx_closeParen hregion, hlast⟩

/-- Behind a closing parenthesis and trivia, a slash begins a regular expression if and only if
    the parenthesis closes the head of a control statement. -/
theorem Reached.kind_of_slash {next next' : Context} {control : Bool} {outer : List Opener}
    {token : Token}
    (h : Reached jsx text (seen ++ [(⟨.punctuator, [')']⟩, next)] ++ trivia ++ [(token, next')]) s
      rest)
    (hopened : openers seen = some (.paren control :: outer))
    (htrivia : ∀ entry ∈ trivia, entry.1.kind.isTrivia = true)
    (hkind : token.kind.isTrivia = false) (hslash : token.text.head? = some '/') :
    token.kind = if control then .regex else .punctuator := by
  obtain ⟨_, _, hbefore⟩ := h.of_append
  obtain ⟨_, _, hparen⟩ := hbefore.of_append
  obtain ⟨hscript, hlast⟩ := hparen.closeParen hopened
  have hslashed := h.slash_behind hscript htrivia hkind hslash
  rw [hlast] at hslashed
  cases control <;> exact hslashed

end Slash

/-! ## Simulation -/

/-- After any beginning of the tokens of a text in which the closing brackets fit, the lexer keeps
    how many parentheses are open, for each open brace of the script whether it opened an object,
    and the open regions of script within template literals and JSX, all in the order of the open
    brackets.  There a closing parenthesis is taken for the end of a control head if and only if
    the one that it closes stands right behind a control keyword that is no property name; and so a
    slash behind it begins a regular expression if and only if that is the case. -/
theorem brackets_simulated {jsx : Bool} {text : Text} {seen later : List Entry}
    {opened : List Opener} (htrace : text.trace jsx = seen ++ later)
    (hopened : openers seen = some opened) :
    (contextAfter {} seen).parenDepth = opened.countP Opener.isParen ∧
      (contextAfter {} seen).openBraces = opened.filterMap Opener.object? ∧
      (contextAfter {} seen).regions.filter (fun region => !region.isJsx) = scriptRegions opened ∧
      (contextAfter {} seen).regions.filterMap Region.hole? = opened.filter Opener.isHole ∧
      ∀ control outer next after, opened = .paren control :: outer →
        later = (⟨.punctuator, [')']⟩, next) :: after →
        (next.last = .controlHeadEnd ↔ control = true) ∧
          ∀ trivia token next' rest, after = trivia ++ (token, next') :: rest →
            (∀ entry ∈ trivia, entry.1.kind.isTrivia = true) → token.kind.isTrivia = false →
            token.text.head? = some '/' →
            token.kind = if control then .regex else .punctuator := by
  obtain ⟨rest, hreached⟩ := reached_of_trace_eq htrace
  have hencodes := hreached.encodes hopened
  refine ⟨hencodes.parenDepth, hencodes.openBraces, hencodes.regions, hencodes.holes, ?_⟩
  rintro control outer next after rfl rfl
  constructor
  · rw [List.append_cons] at htrace
    obtain ⟨_, hparen⟩ := reached_of_trace_eq htrace
    rw [(hparen.closeParen hopened).2]
    cases control <;> simp
  · rintro trivia token next' rest rfl htrivia hkind hslash
    have hsplit : text.trace jsx = seen ++ [(⟨.punctuator, [')']⟩, next)] ++ trivia ++
        [(token, next')] ++ rest := by simpa using htrace
    obtain ⟨_, hslashed⟩ := reached_of_trace_eq hsplit
    exact hslashed.kind_of_slash hopened htrivia hkind hslash

/-- The head of a control statement, with parentheses inside of it: up to the parenthesis that
    closes the head one is open, and behind it a regular expression begins. -/
theorem brackets_simulated_controlHead :
    openers ((Text.trace true "if((a)) /b/".toList).take 5) = some [.paren true] ∧
      (contextAfter {} ((Text.trace true "if((a)) /b/".toList).take 5)).parenDepth = 1 ∧
      (contextAfter {} ((Text.trace true "if((a)) /b/".toList).take 6)).last = .controlHeadEnd ∧
      ∃ token ∈ Text.tokens true "if((a)) /b/".toList,
        token.text = "/b/".toList ∧ token.kind = .regex := by
  have hopened : openers ((Text.trace true "if((a)) /b/".toList).take 5) =
      some [.paren true] := by decide +kernel
  obtain ⟨hdepth, -, -, -, hclose⟩ :=
    brackets_simulated (List.take_append_drop 5 (Text.trace true "if((a)) /b/".toList)).symm hopened
  have hparen := hclose true []
    (contextAfter {} ((Text.trace true "if((a)) /b/".toList).take 6))
    ((Text.trace true "if((a)) /b/".toList).drop 6) rfl (by decide +kernel)
  have hslash := hparen.2 [(⟨.whitespace, [' ']⟩,
    contextAfter {} ((Text.trace true "if((a)) /b/".toList).take 7))]
    ⟨.regex, "/b/".toList⟩ (contextAfter {} (Text.trace true "if((a)) /b/".toList)) []
    (by decide +kernel) (by decide) rfl rfl
  exact ⟨hopened, hdepth, hparen.1.2 rfl, _, by decide +kernel, rfl, hslash⟩

end SyntaxColor
