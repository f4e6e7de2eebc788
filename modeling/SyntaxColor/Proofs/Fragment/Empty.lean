/-
  Fragments without text.

  No token is empty, but a piece of a template literal is cut at its marks, and nothing may be left
  between them.  Behind a substitution this happens in two ways: the next one opens at once, or the
  text ends before the literal does.

  `Token.CutAtMarks.of_empty`: which tokens have a fragment without text.
  `Takes.text_of_brace`: where the brace that closes a substitution is all of the last piece, the
  text has at most one lone backslash left.
  `empty_fragment`: what stands around a fragment without text.
-/
import SyntaxColor.Proofs.Brackets.Shift
import SyntaxColor.Proofs.Fragment
import SyntaxColor.Proofs.Token.Alone
import SyntaxColor.Proofs.Token.Stray

namespace SyntaxColor

/-! ## Tokens -/

/-- An occurrence among the pieces of a list's members is one in the pieces of a single member. -/
theorem exists_of_flatMap_eq {α β : Type} {f : α → List β} {l : List α} {before after : List β}
    {b : β} (h : l.flatMap f = before ++ b :: after) : ∃ earlier a later front back,
      l = earlier ++ a :: later ∧ f a = front ++ b :: back ∧
        before = earlier.flatMap f ++ front ∧ after = back ++ later.flatMap f := by
  induction l generalizing before with
  | nil => simp at h
  | cons first l ih =>
    rw [List.flatMap_cons] at h
    obtain ⟨middle, rfl, hl⟩ | ⟨middle, hfirst, hl⟩ := List.append_eq_append_iff.1 h
    · obtain ⟨earlier, a, later, front, back, rfl, ha, rfl, rfl⟩ := ih hl
      exact ⟨first :: earlier, a, later, front, back, rfl, ha, by simp, rfl⟩
    · cases middle with
      | nil =>
        obtain ⟨earlier, a, later, front, back, rfl, ha, hnil, rfl⟩ := @ih [] hl.symm
        exact ⟨first :: earlier, a, later, front, back, rfl, ha, by simp [← hnil, hfirst], rfl⟩
      | cons b' back =>
        obtain ⟨rfl, rfl⟩ := List.cons.inj hl
        exact ⟨[], first, l, before, back, rfl, hfirst, rfl, rfl⟩

/-- Of the fragments around the body of a piece behind a substitution, only the body may be
    without text. -/
theorem eq_of_empty_behind_hole {body : Text} {more front back : List Fragment}
    {fragment : Fragment} (hmore : more = [] ∨ more = [.holeOpening])
    (hcut : .holeClosing :: ⟨.string, body⟩ :: more = front ++ fragment :: back)
    (hempty : fragment.text = []) :
    front = [.holeClosing] ∧ fragment = ⟨.string, []⟩ ∧ body = [] ∧ back = more := by
  obtain ⟨-, hfirst⟩ | ⟨front, rfl, hrest⟩ := List.cons_eq_append_iff.1 hcut
  · obtain ⟨rfl, -⟩ := List.cons.inj hfirst
    cases hempty
  obtain ⟨rfl, hbody⟩ | ⟨front, rfl, hlast⟩ := List.cons_eq_append_iff.1 hrest
  · obtain ⟨rfl, rfl⟩ := List.cons.inj hbody
    obtain rfl : body = [] := hempty
    exact ⟨rfl, rfl, rfl, rfl⟩
  obtain rfl | rfl := hmore
  · simp at hlast
  · obtain rfl : fragment = .holeOpening := List.mem_singleton.1 (by simp [hlast])
    cases hempty

/-- A token with a fragment without text continues a template literal behind a substitution, and
    has nothing in it but its marks. -/
theorem Token.CutAtMarks.of_empty {token : Token} (h : token.CutAtMarks) (hlexeme : token.IsLexeme)
    (hne : token.text ≠ []) {front back : List Fragment} {fragment : Fragment}
    (hcut : token.fragments = front ++ fragment :: back) (hempty : fragment.text = []) :
    front = [.holeClosing] ∧ fragment = ⟨.string, []⟩ ∧
      (token = ⟨.templateMiddle, ['}', '$', '{']⟩ ∧ back = [.holeOpening] ∨
        token = ⟨.templateTail, ['}']⟩ ∧ back = []) := by
  have hmem : fragment ∈ token.fragments := by simp [hcut]
  obtain ⟨kind, text⟩ := token
  cases kind with
  | templateMiddle =>
    obtain ⟨body, rfl, hfragments⟩ := h
    obtain ⟨hfront, hfragment, rfl, hback⟩ :=
      eq_of_empty_behind_hole (.inr rfl) (hfragments.symm.trans hcut) hempty
    exact ⟨hfront, hfragment, .inl ⟨rfl, hback⟩⟩
  | templateTail =>
    obtain ⟨body, rfl, hfragments⟩ := h
    obtain ⟨hfront, hfragment, rfl, hback⟩ :=
      eq_of_empty_behind_hole (.inl rfl) (hfragments.symm.trans hcut) hempty
    exact ⟨hfront, hfragment, .inr ⟨rfl, hback⟩⟩
  | templateHead =>
    -- The backtick stands before the opening of the substitution, in the string.
    obtain ⟨body, rfl, hfragments⟩ := h
    rw [hfragments] at hmem
    obtain rfl | rfl : fragment = ⟨.string, body⟩ ∨ fragment = .holeOpening := by simpa using hmem
    · obtain rfl : body = [] := hempty
      exact absurd hlexeme.1 (by simp)
    · cases hempty
  | _ =>
    obtain rfl : fragment = ⟨_, text⟩ := List.mem_singleton.1 hmem
    exact absurd hempty hne

/-! ## The end of the text -/

/-- Nothing can be read of a piece of a template literal at the end of the text, or at a backslash
    that ends it. -/
theorem Lexeme.templateBody_length_eq_zero {text : Text} (h : (templateBody text).length = 0) :
    text = [] ∨ text = ['\\'] := by
  revert h
  fun_cases templateBody text with
  | case1 => simp
  | case2 => simp
  | _ => simp [TemplatePiece.after, *]

section Steps

variable {jsx : Bool} {s : Context} {text : Text} {step : Step}

/-- Where the closing brace is all of the last piece of a template literal, at most a lone backslash
    is behind it. -/
theorem Takes.text_of_brace (h : Takes jsx s text step)
    (htoken : (step.entry text).1 = ⟨.templateTail, ['}']⟩) :
    s.region = .templateHole s.openBraces.length ∧ step.next = s.leave.afterOperand ['}'] ∧
      (text = ['}'] ∨ text = ['}', '\\']) := by
  cases h with
  | @templateTail rest hregion hending =>
    have htext : '}' :: rest.take (Lexeme.templateBody rest).length = ['}'] :=
      congrArg Token.text htoken
    have hlength : (Lexeme.templateBody rest).length = 0 := by
      have hle := Lexeme.templateBody_le rest
      have hnil := congrArg List.length (List.cons.inj htext).2
      rw [List.length_take_of_le hle] at hnil
      exact hnil
    refine ⟨hregion, ?_, ?_⟩
    · simp [hlength]
    · obtain rfl | rfl := Lexeme.templateBody_length_eq_zero hlength
      · exact .inl rfl
      · exact .inr rfl
  | _ => cases congrArg Token.kind htoken

/-- A backslash that ends the text escapes nothing. -/
theorem traceFrom_backslash (hregion : s.region.isJsx = false) :
    Text.traceFrom jsx s 0 ['\\'] = [(⟨.stray, ['\\']⟩, s.afterOperator ['\\'])] := by
  have hescape : ∀ escape, Lexeme.IsNameEscape escape → ¬ escape <+: ['\\'] := by
    intro escape hescape hprefix
    have hlength := hprefix.length_le
    cases hescape <;> simp at hlength
  have hstep : s.step jsx ['\\'] = Step.stray s ['\\'] :=
    step_of_beginsNoToken (.backslash hregion hescape)
  rw [traceFrom_cons jsx s (by simp), hstep]
  simp [Step.stray, Step.entry, hregion, Text.traceFrom]

end Steps

/-! ## Every text -/

/-- A closing brace that is all of the last piece of a template literal is at the end of the text,
    or before a backslash there. -/
theorem tokens_behind_brace {jsx : Bool} {text : Text} {earlier later : List Token}
    (h : text.tokens jsx = earlier ++ ⟨.templateTail, ['}']⟩ :: later) :
    later = [] ∨ later = [⟨.stray, ['\\']⟩] := by
  obtain ⟨seen, behind, htrace, -, hbehind⟩ := List.map_eq_append_iff.1 h
  obtain ⟨entry, more, rfl, hentry, rfl⟩ := List.map_eq_cons_iff.1 hbehind
  obtain ⟨c, rest, htext, hstep, hmore⟩ := step_of_trace_eq htrace (by simp [hentry])
  obtain ⟨hregion, hnext, hrest⟩ :=
    (takes_step jsx (contextAfter {} seen) (List.cons_ne_nil c rest)).text_of_brace (hstep ▸ hentry)
  rw [← htext, List.flatMap_cons, hentry] at hrest
  obtain hrest | hrest : more.flatMap (·.1.text) = [] ∨ more.flatMap (·.1.text) = ['\\'] := by
    simpa using hrest
  · rw [hrest] at hmore
    exact .inl (by simp [hmore, Text.traceFrom])
  · -- Outside of the substitution there is script, as before the template literal.
    have hscript : entry.2.region.isJsx = false := by
      have hcontext : entry.2 = (contextAfter {} seen).leave.afterOperand ['}'] := by
        rw [hstep, ← hnext]
        rfl
      rw [hcontext]
      exact (reached_before_later htrace).stacked.isJsx_leave (.inr ⟨_, hregion⟩)
    rw [hrest, traceFrom_backslash hscript] at hmore
    exact .inr (by simp [hmore])

/-- In every text, a fragment without text is a string that stands right behind the closing of a
    substitution, and is cut from the same piece of a template literal.  Either the next
    substitution opens right behind it, in the same piece; or the piece is the last one of a literal
    that is not closed, and nothing is left of the text, or a backslash that begins no token. -/
theorem empty_fragment {text : Text} {before after : List Fragment} {fragment : Fragment}
    (hfragments : text.fragments = before ++ fragment :: after) (hempty : fragment.text = []) :
    fragment = ⟨.string, []⟩ ∧
      ∃ earlier token later more, text.tokens true = earlier ++ token :: later ∧
        token.fragments = .holeClosing :: fragment :: more ∧
        before = earlier.flatMap Token.fragments ++ [.holeClosing] ∧
        after = more ++ later.flatMap Token.fragments ∧
        (token = ⟨.templateMiddle, ['}', '$', '{']⟩ ∧ more = [.holeOpening] ∨
          token = ⟨.templateTail, ['}']⟩ ∧ more = [] ∧
            Lexeme.templatePiece? (token.text ++ later.flatMap Token.text) = some ⟨1, .cutOff⟩ ∧
            (after = [] ∨ after = [⟨.invalid, ['\\']⟩])) := by
  obtain ⟨earlier, token, later, front, more, htokens, hcut, hbefore, hafter⟩ :=
    exists_of_flatMap_eq hfragments
  have hmem : token ∈ text.tokens true := by simp [htokens]
  obtain ⟨rfl, rfl, htoken⟩ := (tokens_cutAtMarks true text token hmem).of_empty
    (isLexeme_of_mem_tokens hmem) (tokens_text_ne_nil true text token hmem) hcut hempty
  refine ⟨rfl, earlier, token, later, more, htokens, hcut, hbefore, hafter, ?_⟩
  obtain hmiddle | ⟨rfl, rfl⟩ := htoken
  · exact .inl hmiddle
  · obtain rfl | rfl := tokens_behind_brace htokens
    · exact .inr ⟨rfl, rfl, rfl, .inl hafter⟩
    · exact .inr ⟨rfl, rfl, rfl, .inr hafter⟩

/-- Two substitutions, a closing brace, and a backslash at the end of the text: both strings behind
    a substitution are empty, and the backslash is left over. -/
theorem empty_fragment_backslash :
    (Text.fragments "\x60$\x7ba\x7d$\x7bb\x7d\\".toList).drop 8 =
        [⟨.string, []⟩, ⟨.invalid, ['\\']⟩] ∧
      ∃ earlier token later, Text.tokens true "\x60$\x7ba\x7d$\x7bb\x7d\\".toList =
          earlier ++ token :: later ∧
        token = ⟨.templateTail, ['}']⟩ ∧
        Lexeme.templatePiece? (token.text ++ later.flatMap Token.text) = some ⟨1, .cutOff⟩ := by
  let text : Text := "\x60$\x7ba\x7d$\x7bb\x7d\\".toList
  have hdrop : text.fragments.drop 8 = [⟨.string, []⟩, ⟨.invalid, ['\\']⟩] := by
    decide +kernel
  have hfragments : text.fragments =
      text.fragments.take 8 ++ ⟨.string, []⟩ :: [⟨.invalid, ['\\']⟩] := by
    rw [← hdrop, List.take_append_drop]
  obtain ⟨-, earlier, token, later, more, htokens, -, -, hafter, htoken⟩ :=
    empty_fragment hfragments rfl
  obtain ⟨-, rfl⟩ | ⟨htoken, -, hpiece, -⟩ := htoken
  · -- The next substitution does not open here.
    exact absurd (List.cons.inj hafter).1 (by decide)
  · exact ⟨hdrop, earlier, token, later, htokens, htoken, hpiece⟩

end SyntaxColor
