/-
  Lexing with and without JSX.  Two runs over one text, one with JSX and one without, go on in
  lockstep until the first tag opens.  Up to there they are in the same context, and that never lies
  within JSX, so that only the rule for the beginning of a tag can tell them apart.

  `step_lockstep`: from a context in script, the two steps differ at the `<` of a tag only.
  `Reached.without_jsx`: what is read with JSX is read without it, as long as no token belongs to
  JSX.
  `tokens_lockstep`: so the tokens are the same up to the first one that belongs to JSX, which is
  the `<` of a tag, and without JSX a punctuator.
-/
import SyntaxColor.Proofs.Brackets.Region
import SyntaxColor.Proofs.Token.Exact

namespace SyntaxColor

/-! ## Steps -/

section Steps

variable {s : Context} {text : Text}

theorem tagStart_without_jsx (s : Context) (text : Text) : Rule.tagStart false s text = none := by
  simp [Rule.tagStart]

/-- Where no tag begins, JSX makes no difference. -/
theorem step_eq_without_jsx (h : Rule.tagStart true s text = none) :
    s.step true text = s.step false text := by
  obtain hregion | hregion | hregion := s.region.sorts
  · simp only [Context.step, Region.rules_of_not_isJsx hregion, Rule.script, List.cons_append,
      List.findSome?_cons, h, tagStart_without_jsx]
  · simp only [Context.step, Region.rules_of_tag hregion]
  · simp only [Context.step, hregion, Region.rules]

/-- What a tag begins with is a whole punctuator. -/
theorem less_of_tagStart {step : Step} (h : Rule.tagStart true s text = some step) :
    s.last.expressionMayFollow = true ∧
      ∃ rest, text = '<' :: rest ∧ Lexeme.punctuator ('<' :: rest) = 1 := by
  unfold Rule.tagStart at h
  split at h
  · next hguard =>
    obtain ⟨-, hlast, htake⟩ := hguard
    have hlength := List.length_take_of_le (Lexeme.punctuator_le text)
    rw [htake] at hlength
    have htext := List.take_append_drop (Lexeme.punctuator text) text
    rw [htake] at htext
    refine ⟨hlast, text.drop (Lexeme.punctuator text), htext.symm, ?_⟩
    rw [show '<' :: text.drop (Lexeme.punctuator text) = text from htext]
    exact hlength.symm
  · cases h

/-- A `<` without JSX. -/
theorem step_less_without_jsx (hregion : s.region.isJsx = false) {rest : Text}
    (hlength : Lexeme.punctuator ('<' :: rest) = 1) :
    s.step false ('<' :: rest) = ⟨.punctuator, 1, s.afterPunctuator ['<']⟩ := by
  refine step_eq_of_rules [Rule.regex, Rule.templateRest, Rule.jsxHoleEnd, Rule.tagStart false]
    ([Rule.name, Rule.string, Rule.number, Rule.template] ++ Rule.trivia)
    (rules_eq_early hregion) ?_ ?_
  · simp [regex_eq_none, templateRest_eq_none, jsxHoleEnd_eq_none, tagStart_without_jsx]
  · simp [Rule.punctuator, Step.ofLength?, hlength]

/-- In script, a step with JSX is the same as without, or begins a tag at a `<` that is a punctuator
    without JSX. -/
theorem step_lockstep (hregion : s.region.isJsx = false) (text : Text) :
    s.step true text = s.step false text ∨ ∃ rest, text = '<' :: rest ∧
      s.step true text = ⟨.jsxMark, 1, s.openTag⟩ ∧
      s.step false text = ⟨.punctuator, 1, s.afterPunctuator ['<']⟩ := by
  cases htag : Rule.tagStart true s text with
  | none => exact .inl (step_eq_without_jsx htag)
  | some step =>
    obtain ⟨hlast, rest, rfl, hlength⟩ := less_of_tagStart htag
    exact .inr ⟨rest, rfl, step_tagStart hregion hlast hlength,
      step_less_without_jsx hregion hlength⟩

end Steps

/-! ## Runs -/

section Runs

variable {text rest : Text} {seen later : List Entry} {s : Context}

/-- Without JSX, the lexer is in script. -/
theorem Reached.region_isJsx (h : Reached false text seen s rest) : s.region.isJsx = false := by
  have hregions := h.isJsx.1
  unfold Context.region
  cases hstack : s.regions with
  | nil => rfl
  | cons region outer => exact hregions region (by simp [hstack])

/-- As long as no token belongs to JSX, the run is one without JSX. -/
theorem Reached.without_jsx (h : Reached true text seen s rest)
    (hseen : ∀ entry ∈ seen, entry.1.kind.isJsx = false) : Reached false text seen s rest := by
  induction h with
  | start => exact .start
  | hashbang hne => exact .hashbang hne
  | @step seen s rest _ hrest hstart ih =>
    obtain ⟨hbefore, hentry⟩ := List.forall_mem_append.1 hseen
    have hreached := ih hbefore
    obtain hsame | ⟨more, -, htag, -⟩ := step_lockstep hreached.region_isJsx rest
    · rw [hsame]
      exact hreached.step hrest hstart
    · have hkind := hentry _ (List.mem_singleton_self _)
      rw [htag] at hkind
      cases hkind

/-- If no token belongs to JSX, the trace is the one without JSX. -/
theorem trace_eq_without_jsx
    (h : ∀ entry ∈ text.trace true, entry.1.kind.isJsx = false) :
    text.trace true = text.trace false := by
  obtain ⟨s, hs⟩ := reached_trace true text
  have hend := (hs.without_jsx h).trace_eq fun hnil => by
    rw [show text = [] by simpa [hnil] using hs.text_eq]
    rfl
  rw [hend, Text.traceFrom, List.append_nil]

/-- The first token that belongs to JSX begins a tag, at a `<` that is a punctuator without JSX. -/
theorem trace_at_jsx {entry : Entry} (htrace : text.trace true = seen ++ entry :: later)
    (hseen : ∀ entry ∈ seen, entry.1.kind.isJsx = false) (hentry : entry.1.kind.isJsx = true) :
    entry.1 = ⟨.jsxMark, ['<']⟩ ∧ ∃ context more,
      text.trace false = seen ++ (⟨.punctuator, ['<']⟩, context) :: more := by
  rw [List.append_cons] at htrace
  obtain ⟨_, hnext⟩ := reached_of_trace_eq htrace
  generalize contextAfter {} (seen ++ [entry]) = next at hnext
  generalize hall : seen ++ [entry] = all at hnext
  cases hnext with
  | start => simp at hall
  | hashbang =>
    obtain ⟨rfl, hhashbang⟩ | ⟨-, hnil⟩ := List.append_eq_singleton_iff.1 hall
    · obtain rfl := (List.cons.inj hhashbang).1
      cases hentry
    · cases hnil
  | @step _ s rest hbefore hrest hstart =>
    obtain ⟨rfl, hlast⟩ := List.append_inj' hall rfl
    obtain rfl := (List.cons.inj hlast).1
    have hreached := hbefore.without_jsx hseen
    obtain hsame | ⟨more, rfl, htag, hless⟩ := step_lockstep hreached.region_isJsx rest
    · -- Without JSX no token belongs to it.
      have hkind := (hreached.step hrest hstart).isJsx.2 _
        (List.mem_append_right _ (List.mem_singleton_self _))
      rw [← hsame] at hkind
      rw [hkind] at hentry
      cases hentry
    · have hwithout := hreached.trace_eq hstart
      rw [traceFrom_cons _ _ hrest, hless] at hwithout
      exact ⟨by rw [htag]; rfl, _, _, hwithout⟩

end Runs

/-- With JSX and without, a text has the same tokens up to the first one that belongs to JSX.  That
    one is the `<` of a tag, where without JSX the token is the punctuator `<`.  If there is none,
    all tokens are the same. -/
theorem tokens_lockstep (text : Text) :
    (∀ before token after, text.tokens true = before ++ token :: after →
      (∀ token ∈ before, token.kind.isJsx = false) → token.kind.isJsx = true →
      token = ⟨.jsxMark, ['<']⟩ ∧
        ∃ after', text.tokens false = before ++ ⟨.punctuator, ['<']⟩ :: after') ∧
      ((∀ token ∈ text.tokens true, token.kind.isJsx = false) →
        text.tokens true = text.tokens false) := by
  constructor
  · intro before token after htokens hbefore hkind
    obtain ⟨seen, rest, htrace, rfl, hrest⟩ := List.map_eq_append_iff.1 htokens
    obtain ⟨entry, later, rfl, rfl, -⟩ := List.map_eq_cons_iff.1 hrest
    have hseen : ∀ entry ∈ seen, entry.1.kind.isJsx = false :=
      fun entry hmem => hbefore _ (List.mem_map_of_mem hmem)
    obtain ⟨hless, context, more, hwithout⟩ := trace_at_jsx htrace hseen hkind
    exact ⟨hless, more.map Prod.fst, by simp [Text.tokens, hwithout]⟩
  · intro hkinds
    have htrace : text.trace true = text.trace false :=
      trace_eq_without_jsx fun entry hmem => hkinds _ (List.mem_map_of_mem hmem)
    rw [Text.tokens, htrace, Text.tokens]

/-- A comparison before a tag: the tokens are the same through the `=`, and without JSX the tag is
    another comparison.  Up to the comparison they are all the same. -/
theorem tokens_lockstep_comparison :
    (∃ after', Text.tokens false "a<b,c=<d/>".toList =
      (Text.tokens true "a<b,c=<d/>".toList).take 6 ++ ⟨.punctuator, ['<']⟩ :: after') ∧
      Text.tokens true "a<b".toList = Text.tokens false "a<b".toList := by
  have htokens : Text.tokens true "a<b,c=<d/>".toList =
      (Text.tokens true "a<b,c=<d/>".toList).take 6 ++ ⟨.jsxMark, ['<']⟩ ::
        [⟨.jsxName, ['d']⟩, ⟨.jsxMark, ['/']⟩, ⟨.jsxMark, ['>']⟩] := by
    decide +kernel
  exact ⟨((tokens_lockstep _).1 _ _ _ htokens (by decide +kernel) rfl).2,
    (tokens_lockstep _).2 (by decide +kernel)⟩

end SyntaxColor
