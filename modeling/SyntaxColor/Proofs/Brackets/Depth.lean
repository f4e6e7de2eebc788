/-
  The depths that regions remember.

  A hole remembers how many braces were open when it began, the head of a control statement how many
  parentheses.  The end of the region is known by them: a brace ends a hole where just as many are
  open again.  That is only asked of the innermost region, so a bracket that closes nothing inside
  of a region may close one outside of it, and then the end of the region around it is missed.

  `Context.HolesWithin`, `Context.HeadsWithin`: every depth that is remembered is still reached.
  `HolesNested.step`, `HeadsNested.step`: a step keeps this, unless its token breaks it.
  `depths_within_iff`: it holds all along a run just if no such token is read.
-/
import SyntaxColor.Proofs.Brackets.Hole

namespace SyntaxColor

/-! ## Depths -/

/-- How many braces were open when a hole began. -/
def Region.holeDepth? : Region → Option Nat
  | .templateHole depth | .jsxHole depth => some depth
  | _ => none

/-- How many parentheses were open when the head of a control statement began. -/
def Region.headDepth? : Region → Option Int
  | .controlHead depth => some depth
  | _ => none

namespace Context

/-- The depths of braces that the holes around a context remember, the innermost first. -/
def holeDepths (s : Context) : List Nat := s.regions.filterMap Region.holeDepth?

/-- The depths of parentheses that the heads around a context remember, the innermost first. -/
def headDepths (s : Context) : List Int := s.regions.filterMap Region.headDepth?

/-- Every brace that was open when a hole around began is still open. -/
def HolesWithin (s : Context) : Prop := ∀ depth ∈ s.holeDepths, depth ≤ s.openBraces.length

/-- The parenthesis of every head of a control statement around is still open. -/
def HeadsWithin (s : Context) : Prop := ∀ depth ∈ s.headDepths, depth < s.parenDepth

instance (s : Context) : Decidable s.HolesWithin := inferInstanceAs (Decidable (∀ _ ∈ _, _))

instance (s : Context) : Decidable s.HeadsWithin := inferInstanceAs (Decidable (∀ _ ∈ _, _))

/-- Holes are within one another: an inner one began when no fewer braces were open. -/
structure HolesNested (s : Context) : Prop where
  within : s.HolesWithin
  sorted : s.holeDepths.Pairwise (· ≥ ·)

/-- Heads are within one another: an inner one began when more parentheses were open. -/
structure HeadsNested (s : Context) : Prop where
  within : s.HeadsWithin
  sorted : s.headDepths.Pairwise (· > ·)

end Context

/-! ## Tokens that break them -/

/-- A closing brace in the head of a control statement, where no brace is open that was opened
    within the hole around: it closes one that was open before the hole began. -/
def Token.BreaksHole (token : Token) (s : Context) : Prop :=
  token = ⟨.punctuator, ['}']⟩ ∧ s.region.headDepth?.isSome ∧ s.openBraces ≠ [] ∧
    s.openBraces.length ∈ s.holeDepths

/-- A closing parenthesis in a hole, where no parenthesis is open that was opened within it: it
    closes the one that opened the head around. -/
def Token.BreaksHead (token : Token) (s : Context) : Prop :=
  token = ⟨.punctuator, [')']⟩ ∧ s.region.holeDepth?.isSome ∧ s.parenDepth - 1 ∈ s.headDepths

instance (token : Token) (s : Context) : Decidable (token.BreaksHole s) :=
  inferInstanceAs (Decidable (_ ∧ _))

instance (token : Token) (s : Context) : Decidable (token.BreaksHead s) :=
  inferInstanceAs (Decidable (_ ∧ _))

/-! ## What a token does to the depths -/

/-- How many braces of script are open behind a token. -/
def Token.bracesAfter (token : Token) (s : Context) : Nat :=
  if token = ⟨.punctuator, ['{']⟩ then s.openBraces.length + 1
  else if token = ⟨.punctuator, ['}']⟩ then s.openBraces.length - 1
  else s.openBraces.length

/-- How many parentheses are open behind a token. -/
def Token.parensAfter (token : Token) (s : Context) : Int :=
  if token = ⟨.punctuator, ['(']⟩ then s.parenDepth + 1
  else if token = ⟨.punctuator, [')']⟩ then s.parenDepth - 1
  else s.parenDepth

section Steps

variable {s next : Context} {token : Token} {kept : List Region}

theorem JsxShift.depths_eq {s s' : Context} (h : JsxShift s s') :
    s'.openBraces = s.openBraces ∧ s'.parenDepth = s.parenDepth := by
  induction h with
  | done hnesting => exact (Context.nesting_eq_iff.1 hnesting).2
  | leave _ _ ih => simpa using ih
  | enter _ _ ih => exact ih

theorem depths_openParen (s : Context) :
    s.openParen.openBraces = s.openBraces ∧ s.openParen.parenDepth = s.parenDepth + 1 := by
  refine ⟨?_, rfl⟩
  unfold Context.openParen
  split <;> rfl

theorem depths_closeParen (s : Context) :
    s.closeParen.openBraces = s.openBraces ∧ s.closeParen.parenDepth = s.parenDepth - 1 := by
  unfold Context.closeParen
  dsimp only
  split
  · exact ⟨Context.openBraces_leave _, Context.parenDepth_leave _⟩
  · exact ⟨rfl, rfl⟩

theorem depths_closeBrace (s : Context) :
    s.closeBrace.openBraces = s.openBraces.tail ∧ s.closeBrace.parenDepth = s.parenDepth := by
  unfold Context.closeBrace
  dsimp only
  split
  · exact ⟨rfl, rfl⟩
  · exact ⟨rfl, rfl⟩

/-- Only the braces and parentheses of script change how many are open. -/
theorem Shifts.depths_eq (h : Shifts s token next) :
    next.openBraces.length = token.bracesAfter s ∧ next.parenDepth = token.parensAfter s := by
  cases h with
  | quiet hquiet hjsx =>
    obtain ⟨hbraces, hparens⟩ := hjsx.depths_eq
    have hne : ∀ mark ∈ [['('], [')'], ['{'], ['}']], token ≠ ⟨.punctuator, mark⟩ := by
      rintro mark hmark rfl
      exact absurd hmark (by simpa [Token.isBracket] using hquiet)
    simp [Token.bracesAfter, Token.parensAfter, hne, hbraces, hparens]
  | openParen => simp [Token.bracesAfter, Token.parensAfter, depths_openParen]
  | closeParen => simp [Token.bracesAfter, Token.parensAfter, depths_closeParen]
  | openBrace =>
    simp [Token.bracesAfter, Token.parensAfter, Context.openBrace, Context.afterOperator,
      Context.seen, Context.withOperand]
  | closeBrace => simp [Token.bracesAfter, Token.parensAfter, depths_closeBrace]
  | openTemplateHole => exact ⟨rfl, rfl⟩
  | openJsxHole => exact ⟨rfl, rfl⟩
  | closeTemplateHole _ hnesting | closeJsxHole _ hnesting | looseBrace _ hnesting =>
    obtain ⟨-, hbraces, hparens⟩ := Context.nesting_eq_iff.1 hnesting
    simp [Token.bracesAfter, Token.parensAfter, hbraces, hparens]

/-- A hole that is opened remembers how many braces are open. -/
theorem holeDepths_opens (token : Token) (s : Context) :
    (token.opens s).filterMap Region.holeDepth? = [] ∨
      (token.opens s).filterMap Region.holeDepth? = [s.openBraces.length] := by
  unfold Token.opens
  repeat' split
  all_goals simp [Region.holeDepth?]

/-- A head that is opened remembers how many parentheses are open, and a parenthesis opens it. -/
theorem headDepths_opens (token : Token) (s : Context) :
    ((token.opens s).filterMap Region.headDepth? = [] ∨
        (token.opens s).filterMap Region.headDepth? = [s.parenDepth]) ∧
      ((token.opens s).filterMap Region.headDepth? ≠ [] → token = ⟨.punctuator, ['(']⟩) := by
  obtain ⟨kind, text⟩ := token
  unfold Token.opens
  repeat' split
  all_goals simp_all [Region.headDepth?]

section Opened

variable {α : Type} {level : α} {closed opened kept : List α}

/-- The depth that a region remembers when it is opened goes with those that are kept. -/
theorem pairwise_opened {R : α → α → Prop} (hopened : opened = [] ∨ opened = [level])
    (hwithin : ∀ depth ∈ closed ++ kept, R level depth) (hsorted : (closed ++ kept).Pairwise R) :
    (opened ++ kept).Pairwise R := by
  have hkept := hsorted.sublist (List.sublist_append_right closed kept)
  obtain rfl | rfl := hopened
  · exact hkept
  · exact List.pairwise_cons.2 ⟨fun depth h => hwithin depth (List.mem_append_right _ h), hkept⟩

theorem eq_of_mem_opened {depth : α} (hopened : opened = [] ∨ opened = [level])
    (h : depth ∈ opened) : depth = level := by
  obtain rfl | rfl := hopened
  · cases h
  · exact List.mem_singleton.1 h

end Opened

theorem headDepth?_eq_some_iff {region : Region} {depth : Int} :
    region.headDepth? = some depth ↔ region = .controlHead depth := by
  cases region <;> simp [Region.headDepth?]

/-- What regions remember is kept, closed and opened as they are. -/
theorem Keeps.filterMap_eq {α : Type} (h : Keeps s token next kept) (f : Region → Option α) :
    s.regions.filterMap f = (token.closes s).filterMap f ++ kept.filterMap f ∧
      next.regions.filterMap f = (token.opens s).filterMap f ++ kept.filterMap f := by
  rw [h.1, h.2, List.filterMap_append, List.filterMap_append]
  exact ⟨rfl, rfl⟩

theorem Keeps.holeDepths_closeBrace (h : Keeps s ⟨.punctuator, ['}']⟩ next kept) :
    next.holeDepths = s.holeDepths := by
  obtain ⟨hbefore, hafter⟩ := h.filterMap_eq Region.holeDepth?
  exact hafter.trans hbefore.symm

theorem Keeps.headDepths_closeParen (h : Keeps s ⟨.punctuator, [')']⟩ next kept)
    (hhead : s.region ≠ .controlHead (s.parenDepth - 1)) : next.headDepths = s.headDepths := by
  obtain ⟨hbefore, hafter⟩ := h.filterMap_eq Region.headDepth?
  rw [Token.closes, if_neg hhead] at hbefore
  exact hafter.trans hbefore.symm

/-- A brace that ends a hole is not read as a punctuator. -/
theorem Takes.holeDepth?_ne {jsx : Bool} {text : Text} {step : Step} (h : Takes jsx s text step)
    (hbrace : (step.entry text).1 = ⟨.punctuator, ['}']⟩) :
    s.region.holeDepth? ≠ some s.openBraces.length := by
  cases h with
  | punctuator _ _ hhole _ hlength =>
    have htake : text.take (Lexeme.punctuator text) = ['}'] := congrArg Token.text hbrace
    have hhead : (text.take (Lexeme.punctuator text)).head? = some '}' := by rw [htake]; rfl
    rw [List.head?_take, if_neg hlength] at hhead
    obtain ⟨htemplate, hjsx⟩ := hhole hhead
    intro hdepth
    cases hregion : s.region <;> simp_all [Region.holeDepth?]
  | _ => cases congrArg Token.kind hbrace

/-- A bracket of script stands in script. -/
theorem Shifts.isJsx_of_punctuator {mark : Text} (h : Shifts s ⟨.punctuator, mark⟩ next)
    (hmark : mark ∈ [['('], [')'], ['{'], ['}']]) : s.region.isJsx = false := by
  cases h with
  | quiet hquiet => exact absurd hmark (by simpa [Token.isBracket] using hquiet)
  | openParen hregion | closeParen hregion | openBrace hregion | closeBrace hregion =>
    exact hregion

/-! ## The innermost region -/

/-- Script lies around everything, and within nothing. -/
theorem Stacked.eq_script (h : Stacked s.regions) (hregion : s.region = .script) :
    s.regions = [.script] := by
  generalize hregions : s.regions = regions at h
  cases h with
  | script => rfl
  | cons hin =>
    obtain rfl : _ = Region.script := by simpa [Context.region, hregions] using hregion
    cases hin

theorem Stacked.filterMap_eq {α : Type} {f : Region → Option α} {a : α} (h : Stacked s.regions)
    (hscript : f .script = none) (hregion : f s.region = some a) :
    s.regions.filterMap f = a :: s.leave.regions.filterMap f := by
  have hne : s.region ≠ .script := by
    intro heq
    rw [heq, hscript] at hregion
    cases hregion
  rw [h.regions_eq hne, List.filterMap_cons_some hregion]

/-- Where the braces that are open are as many as a hole around remembers, they are as many as the
    innermost region remembers, or that is the head of a control statement. -/
theorem Context.HolesNested.isSome_headDepth? (h : s.HolesNested) (hstacked : Stacked s.regions)
    (hregion : s.region.isJsx = false) (hhole : s.region.holeDepth? ≠ some s.openBraces.length)
    (hmem : s.openBraces.length ∈ s.holeDepths) : s.region.headDepth?.isSome := by
  cases hdepth : s.region.holeDepth? with
  | some depth =>
    have hholes : s.holeDepths = depth :: s.leave.holeDepths := hstacked.filterMap_eq rfl hdepth
    have hle : depth ≤ s.openBraces.length := h.within depth (by simp [hholes])
    have hsorted := h.sorted
    rw [hholes, List.pairwise_cons] at hsorted
    rw [hholes, List.mem_cons] at hmem
    obtain heq | hmem := hmem
    · rw [hdepth, heq] at hhole
      exact absurd rfl hhole
    · have hge := hsorted.1 _ hmem
      rw [hdepth, Nat.le_antisymm hle hge] at hhole
      exact absurd rfl hhole
  | none =>
    cases hinner : s.region with
    | controlHead => rfl
    | script =>
      rw [Context.holeDepths, hstacked.eq_script hinner] at hmem
      cases hmem
    | templateHole | jsxHole => simp [hinner, Region.holeDepth?] at hdepth
    | jsxTag | jsxClosingTag | jsxChildren => simp [hinner, Region.isJsx] at hregion

/-- Where a closing parenthesis would belong to a head around, it belongs to the innermost region,
    or that is a hole. -/
theorem Context.HeadsNested.isSome_holeDepth? (h : s.HeadsNested) (hstacked : Stacked s.regions)
    (hregion : s.region.isJsx = false) (hhead : s.region ≠ .controlHead (s.parenDepth - 1))
    (hmem : s.parenDepth - 1 ∈ s.headDepths) : s.region.holeDepth?.isSome := by
  cases hinner : s.region with
  | controlHead depth =>
    have hheads : s.headDepths = depth :: s.leave.headDepths :=
      hstacked.filterMap_eq rfl (headDepth?_eq_some_iff.2 hinner)
    have hlt : depth < s.parenDepth := h.within depth (by simp [hheads])
    have hsorted := h.sorted
    rw [hheads, List.pairwise_cons] at hsorted
    rw [hheads, List.mem_cons] at hmem
    obtain heq | hmem := hmem
    · exact absurd (heq ▸ hinner) hhead
    · have hgt := hsorted.1 _ hmem
      omega
  | script =>
    rw [Context.headDepths, hstacked.eq_script hinner] at hmem
    cases hmem
  | templateHole | jsxHole => rfl
  | jsxTag | jsxClosingTag | jsxChildren => simp [hinner, Region.isJsx] at hregion

/-! ## What a step keeps -/

/-- A closing brace leaves each depth that is remembered within those of the open braces, unless it
    breaks a hole. -/
theorem Context.HolesNested.closeBrace (h : s.HolesNested) (hstacked : Stacked s.regions)
    (hkeeps : Keeps s ⟨.punctuator, ['}']⟩ next kept) (hshift : Shifts s ⟨.punctuator, ['}']⟩ next)
    (hhole : s.region.holeDepth? ≠ some s.openBraces.length)
    (hbreaks : ¬ Token.BreaksHole ⟨.punctuator, ['}']⟩ s) : next.HolesNested := by
  have hsame := hkeeps.holeDepths_closeBrace
  have hlength : next.openBraces.length = s.openBraces.length - 1 := hshift.depths_eq.1
  refine ⟨fun depth hdepth => ?_, hsame ▸ h.sorted⟩
  rw [hsame] at hdepth
  have hle : depth ≤ s.openBraces.length := h.within depth hdepth
  have hne : s.openBraces ≠ [] → depth ≠ s.openBraces.length := by
    rintro hopen rfl
    have hregion := hshift.isJsx_of_punctuator (by simp)
    exact hbreaks ⟨rfl, h.isSome_headDepth? hstacked hregion hhole hdepth, hopen, hdepth⟩
  cases hopen : s.openBraces with
  | nil => simp_all
  | cons _ outer =>
    have hlt := Nat.lt_of_le_of_ne hle (hne (by simp [hopen]))
    omega

/-- Where no brace is taken away, a hole that is opened is within the others. -/
theorem Context.HolesNested.open (h : s.HolesNested) (hkeeps : Keeps s token next kept)
    (hle : s.openBraces.length ≤ next.openBraces.length) : next.HolesNested := by
  obtain ⟨hbefore, hafter⟩ : s.holeDepths = _ ∧ next.holeDepths = _ :=
    hkeeps.filterMap_eq Region.holeDepth?
  obtain ⟨hwithin, hsorted⟩ := h
  rw [Context.HolesWithin, hbefore] at hwithin
  rw [hbefore] at hsorted
  have hopens := holeDepths_opens token s
  refine ⟨fun depth hdepth => ?_, hafter ▸ pairwise_opened hopens hwithin hsorted⟩
  rw [hafter, List.mem_append] at hdepth
  obtain hopened | hkept := hdepth
  · rwa [eq_of_mem_opened hopens hopened]
  · exact Nat.le_trans (hwithin depth (List.mem_append_right _ hkept)) hle

/-- A step keeps holes within one another, unless its token breaks one. -/
theorem Context.HolesNested.step (h : s.HolesNested) (hstacked : Stacked s.regions)
    (hkeeps : Keeps s token next kept) (hshift : Shifts s token next)
    (hhole : token = ⟨.punctuator, ['}']⟩ → s.region.holeDepth? ≠ some s.openBraces.length)
    (hbreaks : ¬ token.BreaksHole s) : next.HolesNested := by
  by_cases hbrace : token = ⟨.punctuator, ['}']⟩
  · subst hbrace
    exact h.closeBrace hstacked hkeeps hshift (hhole rfl) hbreaks
  · refine h.open hkeeps ?_
    rw [hshift.depths_eq.1, Token.bracesAfter, if_neg hbrace]
    split <;> omega

/-- A closing parenthesis leaves each depth that is remembered below that of the open parentheses,
    unless it breaks a head. -/
theorem Context.HeadsNested.closeParen (h : s.HeadsNested) (hstacked : Stacked s.regions)
    (hkeeps : Keeps s ⟨.punctuator, [')']⟩ next kept) (hshift : Shifts s ⟨.punctuator, [')']⟩ next)
    (hbreaks : ¬ Token.BreaksHead ⟨.punctuator, [')']⟩ s) : next.HeadsNested := by
  have hdepth : next.parenDepth = s.parenDepth - 1 := hshift.depths_eq.2
  have hsorted := h.sorted
  by_cases hhead : s.region = .controlHead (s.parenDepth - 1)
  · -- The head is closed, and those around it began at lower depths.
    have hclosed : s.headDepths = (s.parenDepth - 1) :: next.headDepths := by
      obtain ⟨hbefore, hafter⟩ := hkeeps.filterMap_eq Region.headDepth?
      rw [Token.closes, if_pos hhead] at hbefore
      exact hbefore.trans (congrArg _ hafter.symm)
    rw [hclosed, List.pairwise_cons] at hsorted
    refine ⟨?_, hsorted.2⟩
    rw [Context.HeadsWithin, hdepth]
    exact hsorted.1
  · have hsame := hkeeps.headDepths_closeParen hhead
    refine ⟨fun depth hmem => ?_, hsame ▸ hsorted⟩
    rw [hsame] at hmem
    have hlt : depth < s.parenDepth := h.within depth hmem
    have hne : depth ≠ s.parenDepth - 1 := by
      rintro rfl
      have hregion := hshift.isJsx_of_punctuator (by simp)
      exact hbreaks ⟨rfl, h.isSome_holeDepth? hstacked hregion hhead hmem, hmem⟩
    omega

/-- Where no parenthesis is closed, a head that is opened is within the others. -/
theorem Context.HeadsNested.open (h : s.HeadsNested) (hkeeps : Keeps s token next kept)
    (hle : s.parenDepth ≤ next.parenDepth)
    (hopen : token = ⟨.punctuator, ['(']⟩ → s.parenDepth < next.parenDepth) :
    next.HeadsNested := by
  obtain ⟨hbefore, hafter⟩ : s.headDepths = _ ∧ next.headDepths = _ :=
    hkeeps.filterMap_eq Region.headDepth?
  obtain ⟨hwithin, hsorted⟩ := h
  rw [Context.HeadsWithin, hbefore] at hwithin
  rw [hbefore] at hsorted
  obtain ⟨hopens, hparen⟩ := headDepths_opens token s
  refine ⟨fun depth hdepth => ?_, hafter ▸ pairwise_opened hopens hwithin hsorted⟩
  rw [hafter, List.mem_append] at hdepth
  obtain hopened | hkept := hdepth
  · rw [eq_of_mem_opened hopens hopened]
    exact hopen (hparen (List.ne_nil_of_mem hopened))
  · exact Int.lt_of_lt_of_le (hwithin depth (List.mem_append_right _ hkept)) hle

/-- A step keeps heads within one another, unless its token breaks one. -/
theorem Context.HeadsNested.step (h : s.HeadsNested) (hstacked : Stacked s.regions)
    (hkeeps : Keeps s token next kept) (hshift : Shifts s token next)
    (hbreaks : ¬ token.BreaksHead s) : next.HeadsNested := by
  by_cases hparen : token = ⟨.punctuator, [')']⟩
  · subst hparen
    exact h.closeParen hstacked hkeeps hshift hbreaks
  · have hdepth : next.parenDepth =
        if token = ⟨.punctuator, ['(']⟩ then s.parenDepth + 1 else s.parenDepth := by
      rw [hshift.depths_eq.2, Token.parensAfter, if_neg hparen]
    refine h.open hkeeps ?_ fun hopen => ?_
    · rw [hdepth]
      split <;> omega
    · rw [hdepth, if_pos hopen]
      omega

/-! ## What a step breaks -/

/-- A token that breaks a hole takes away a brace that was open when the hole began. -/
theorem Token.BreaksHole.not_holesWithin (h : token.BreaksHole s)
    (hkeeps : Keeps s token next kept) (hshift : Shifts s token next) : ¬ next.HolesWithin := by
  obtain ⟨rfl, -, hopen, hmem⟩ := h
  have hsame := hkeeps.holeDepths_closeBrace
  have hlength : next.openBraces.length = s.openBraces.length - 1 := hshift.depths_eq.1
  have hpos := List.length_pos_iff.2 hopen
  intro hwithin
  have hle : s.openBraces.length ≤ next.openBraces.length := hwithin _ (hsame ▸ hmem)
  omega

theorem Token.BreaksHead.not_headsWithin (h : token.BreaksHead s)
    (hkeeps : Keeps s token next kept) (hshift : Shifts s token next) : ¬ next.HeadsWithin := by
  obtain ⟨rfl, hhole, hmem⟩ := h
  have hne : s.region ≠ .controlHead (s.parenDepth - 1) := by
    intro heq
    rw [heq] at hhole
    cases hhole
  have hsame := hkeeps.headDepths_closeParen hne
  have hdepth : next.parenDepth = s.parenDepth - 1 := hshift.depths_eq.2
  intro hwithin
  have hlt : s.parenDepth - 1 < next.parenDepth := hwithin _ (hsame ▸ hmem)
  omega

end Steps

/-! ## Every run -/

section Runs

variable {jsx : Bool} {text rest : Text} {seen later : List Entry} {entry : Entry} {s : Context}

/-- What every token does to the nesting, read from the context before it. -/
theorem Reached.shifts (h : Reached jsx text (seen ++ [entry]) s rest) :
    Shifts (contextAfter {} seen) entry.1 entry.2 := by
  obtain ⟨rfl, lexeme, rfl⟩ | ⟨rest', step, -, htakes, rfl, -⟩ := h.last_cases
  · exact .quiet rfl (.done rfl)
  · exact shifts_step htakes

/-- Each context keeps what the one before kept, up to a token that breaks it. -/
theorem Reached.of_unbroken {Inv : Context → Prop} {Breaks : Token → Context → Prop}
    (hstart : Inv {})
    (hstep : ∀ {seen entry s rest}, Reached jsx text (seen ++ [entry]) s rest →
      Inv (contextAfter {} seen) → ¬ Breaks entry.1 (contextAfter {} seen) → Inv entry.2)
    (h : Reached jsx text seen s rest)
    (hreads : ∀ read ∈ contextsOf {} seen, ¬ Breaks read.2 read.1) : Inv s := by
  induction h with
  | start => exact hstart
  | hashbang => exact hstart
  | @step seen s rest hseen hrest hfirst ih =>
    have hnext := hseen.step hrest hfirst
    rw [contextsOf_append, List.forall_mem_append, List.forall_mem_singleton] at hreads
    exact hstep hnext (hseen.context_eq ▸ ih hreads.1) hreads.2

/-- What is kept by every token that does not break it, and lost at each that does, holds all along
    the tokens that were read just if none of them breaks it. -/
theorem forall_within_iff {Inv Within : Context → Prop} {Breaks : Token → Context → Prop}
    (hstart : Inv {}) (hwithin : ∀ s, Inv s → Within s)
    (hstep : ∀ {seen entry s rest}, Reached jsx text (seen ++ [entry]) s rest →
      Inv (contextAfter {} seen) → ¬ Breaks entry.1 (contextAfter {} seen) → Inv entry.2)
    (hbreaks : ∀ {seen entry s rest}, Reached jsx text (seen ++ [entry]) s rest →
      Breaks entry.1 (contextAfter {} seen) → ¬ Within entry.2)
    (htrace : text.trace jsx = seen ++ later) :
    (∀ before, before <+: seen → Within (contextAfter {} before)) ↔
      ∀ read ∈ contextsOf {} seen, ¬ Breaks read.2 read.1 := by
  constructor
  · intro hall read hread hbreak
    obtain ⟨before, entry, after, rfl, rfl⟩ := mem_contextsOf.1 hread
    rw [List.append_cons, List.append_assoc] at htrace
    obtain ⟨_, hreached⟩ := reached_of_trace_eq htrace
    have hlast := hall (before ++ [entry]) ⟨after, by simp⟩
    rw [contextAfter_append] at hlast
    exact hbreaks hreached hbreak hlast
  · rintro hreads before ⟨after, rfl⟩
    rw [List.append_assoc] at htrace
    obtain ⟨_, hreached⟩ := reached_of_trace_eq htrace
    refine hwithin _ (hreached.of_unbroken hstart hstep fun read hread => hreads read ?_)
    obtain ⟨earlier, entry, more, rfl, rfl⟩ := mem_contextsOf.1 hread
    exact mem_contextsOf.2 ⟨earlier, entry, more ++ after, by simp, rfl⟩

theorem Reached.stacked_before (h : Reached jsx text (seen ++ [entry]) s rest) :
    Stacked (contextAfter {} seen).regions := by
  obtain ⟨s', rest', hbefore⟩ := h.of_append
  exact hbefore.context_eq ▸ hbefore.stacked

theorem Reached.holesNested_step (h : Reached jsx text (seen ++ [entry]) s rest)
    (hnested : (contextAfter {} seen).HolesNested)
    (hbreaks : ¬ entry.1.BreaksHole (contextAfter {} seen)) : entry.2.HolesNested := by
  obtain ⟨kept, hkeeps⟩ := h.exists_keeps
  refine hnested.step h.stacked_before hkeeps h.shifts (fun hbrace => ?_) hbreaks
  obtain ⟨rfl, lexeme, rfl⟩ | ⟨rest', step, -, htakes, rfl, -⟩ := h.last_cases
  · cases hbrace
  · exact htakes.holeDepth?_ne hbrace

theorem Reached.headsNested_step (h : Reached jsx text (seen ++ [entry]) s rest)
    (hnested : (contextAfter {} seen).HeadsNested)
    (hbreaks : ¬ entry.1.BreaksHead (contextAfter {} seen)) : entry.2.HeadsNested := by
  obtain ⟨kept, hkeeps⟩ := h.exists_keeps
  exact hnested.step h.stacked_before hkeeps h.shifts hbreaks

end Runs

/-- After any beginning of the tokens of a text, the holes around each context so far began when no
    more braces were open than there, just if no closing brace was read that breaks a hole.  So it
    is with the heads of control statements: their parentheses are open in each context so far, just
    if no closing parenthesis was read that breaks a head. -/
theorem depths_within_iff {jsx : Bool} {text : Text} {seen later : List Entry}
    (htrace : text.trace jsx = seen ++ later) :
    ((∀ before, before <+: seen → (contextAfter {} before).HolesWithin) ↔
        ∀ read ∈ contextsOf {} seen, ¬ read.2.BreaksHole read.1) ∧
      ((∀ before, before <+: seen → (contextAfter {} before).HeadsWithin) ↔
        ∀ read ∈ contextsOf {} seen, ¬ read.2.BreaksHead read.1) := by
  constructor
  · refine forall_within_iff ⟨by decide, .nil⟩ (fun _ => Context.HolesNested.within)
      Reached.holesNested_step (fun h hbreaks => ?_) htrace
    obtain ⟨kept, hkeeps⟩ := h.exists_keeps
    exact hbreaks.not_holesWithin hkeeps h.shifts
  · refine forall_within_iff ⟨by decide, .nil⟩ (fun _ => Context.HeadsNested.within)
      Reached.headsNested_step (fun h hbreaks => ?_) htrace
    obtain ⟨kept, hkeeps⟩ := h.exists_keeps
    exact hbreaks.not_headsWithin hkeeps h.shifts

/-- An element and braces in a substitution, all in the head of a control statement: around the
    innermost expression both holes and the head remember their depths, and nothing breaks them. -/
theorem depths_within_iff_nested :
    let seen := (Text.trace true "if(\x60$\x7b\x7b<a>\x7bb\x7d</a>\x7d\x7d\x60)".toList).take 9
    (contextAfter {} seen).holeDepths = [1, 0] ∧ (contextAfter {} seen).headDepths = [0] ∧
      (∀ before, before <+: seen → (contextAfter {} before).HolesWithin) ∧
      ∀ before, before <+: seen → (contextAfter {} before).HeadsWithin := by
  let trace := Text.trace true "if(\x60$\x7b\x7b<a>\x7bb\x7d</a>\x7d\x7d\x60)".toList
  obtain ⟨hholes, hheads⟩ := depths_within_iff (List.take_append_drop 9 trace).symm
  exact ⟨by decide +kernel, by decide +kernel, hholes.2 (by decide +kernel),
    hheads.2 (by decide +kernel)⟩

/-- A closing brace in the head of a statement within a substitution closes the block around the
    template literal, and the end of the substitution is read as the end of a block: the template
    literal does not go on behind it, but another one begins.  And a closing parenthesis in a
    substitution closes the head around, so that the slash behind that divides. -/
theorem depths_within_unbalanced :
    let braces : Text := "\x7b\x60$\x7bif(\x7d)\x7d\x60\x7d".toList
    let parens : Text := "if(\x60$\x7b)\x7d\x60)/a/".toList
    (braces.tokens true).drop 4 = [⟨.punctuator, ['}']⟩, ⟨.punctuator, [')']⟩,
        ⟨.punctuator, ['}']⟩, ⟨.template, ['\x60', '}']⟩] ∧
      ¬ (contextAfter {} ((braces.trace true).take 5)).HolesWithin ∧
      (parens.tokens true).drop 4 = [⟨.templateTail, ['}', '\x60']⟩, ⟨.punctuator, [')']⟩,
        ⟨.punctuator, ['/']⟩, ⟨.identifier, ['a']⟩, ⟨.punctuator, ['/']⟩] ∧
      ¬ (contextAfter {} ((parens.trace true).take 4)).HeadsWithin := by
  decide +kernel

end SyntaxColor
