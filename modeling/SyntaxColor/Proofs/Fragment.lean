/-
  The fragments of a text.  The pieces of a template literal are cut blindly: the last two
  characters of one that opens a substitution become `${`, the first one of one behind a
  substitution becomes `}`.

  `tokens_cutAtMarks`: these characters do stand there, in every token of every text.
  `fragments_partition`: so the fragments one after another are the text.
-/
import SyntaxColor.Fragment
import SyntaxColor.Proofs.Token.Run

namespace SyntaxColor

/-! ## The ends of a piece of a template literal -/

namespace Lexeme

theorem take_templateBody_of_hole {text : Text} (h : (templateBody text).ending = .hole) :
    ∃ body, text.take (templateBody text).length = body ++ ['$', '{'] := by
  fun_induction templateBody text with
  | case1 => cases h
  | case2 => cases h
  | case3 c rest ih =>
    obtain ⟨body, hbody⟩ := ih h
    exact ⟨'\\' :: c :: body, by simp [TemplatePiece.after, hbody]⟩
  | case4 => exact ⟨[], rfl⟩
  | case5 => cases h
  | case6 c rest _ _ _ _ ih =>
    obtain ⟨body, hbody⟩ := ih h
    exact ⟨c :: body, by simp [TemplatePiece.after, hbody]⟩

end Lexeme

/-! ## Cutting a token -/

/-- The marks that a token is cut at stand in its text, where its fragments say: `${` at its end,
    `}` at its beginning.  All other tokens are one fragment. -/
def Token.CutAtMarks (token : Token) : Prop :=
  match token.kind with
  | .templateHead => ∃ body, token.text = body ++ ['$', '{'] ∧
      token.fragments = [⟨.string, body⟩, .holeOpening]
  | .templateMiddle => ∃ body, token.text = '}' :: body ++ ['$', '{'] ∧
      token.fragments = [.holeClosing, ⟨.string, body⟩, .holeOpening]
  | .templateTail => ∃ body, token.text = '}' :: body ∧
      token.fragments = [.holeClosing, ⟨.string, body⟩]
  | _ => token.fragments = [⟨token.category, token.text⟩]

theorem cutAtMarks_templateHead (body : Text) :
    Token.CutAtMarks ⟨.templateHead, body ++ ['$', '{']⟩ :=
  ⟨body, rfl, by simp [Token.fragments]⟩

theorem cutAtMarks_templateMiddle (body : Text) :
    Token.CutAtMarks ⟨.templateMiddle, '}' :: body ++ ['$', '{']⟩ :=
  ⟨body, rfl, by simp [Token.fragments]⟩

theorem cutAtMarks_templateTail (body : Text) : Token.CutAtMarks ⟨.templateTail, '}' :: body⟩ :=
  ⟨body, rfl, rfl⟩

theorem cutAtMarks_of_takes {jsx : Bool} {s : Context} {text : Text} {step : Step}
    (h : Takes jsx s text step) : (step.entry text).1.CutAtMarks := by
  cases h with
  | templateMiddle _ hending =>
    obtain ⟨body, hbody⟩ := Lexeme.take_templateBody_of_hole hending
    rw [Step.entry, List.take_succ_cons, hbody]
    exact cutAtMarks_templateMiddle body
  | templateTail => exact cutAtMarks_templateTail _
  | templateHead _ hending =>
    obtain ⟨body, hbody⟩ := Lexeme.take_templateBody_of_hole hending
    rw [Step.entry, List.take_succ_cons, hbody]
    exact cutAtMarks_templateHead ('\x60' :: body)
  | _ => exact rfl

/-- Every token of every text is cut at marks that stand there. -/
theorem tokens_cutAtMarks (jsx : Bool) (text : Text) :
    ∀ token ∈ text.tokens jsx, token.CutAtMarks := by
  refine forall_tokens (fun _ => rfl) fun s text htext => ?_
  exact cutAtMarks_of_takes (takes_step jsx s htext)

/-! ## The fragments make up the text -/

theorem flatMap_text_fragments {token : Token} (h : token.CutAtMarks) :
    token.fragments.flatMap Fragment.text = token.text := by
  obtain ⟨kind, text⟩ := token
  cases kind with
  | templateHead =>
    obtain ⟨body, rfl, hfragments⟩ := h
    rw [hfragments]
    simp [Fragment.holeOpening]
  | templateMiddle =>
    obtain ⟨body, rfl, hfragments⟩ := h
    rw [hfragments]
    simp [Fragment.holeOpening, Fragment.holeClosing]
  | templateTail =>
    obtain ⟨body, rfl, hfragments⟩ := h
    rw [hfragments]
    simp [Fragment.holeClosing]
  | _ => simp [Token.fragments]

/-- The fragments of a text one after another are the text. -/
theorem flatMap_fragments (text : Text) : text.fragments.flatMap Fragment.text = text := by
  have hfragments := fun token htoken =>
    flatMap_text_fragments (tokens_cutAtMarks true text token htoken)
  calc text.fragments.flatMap Fragment.text
      = (text.tokens true).flatMap fun token => token.fragments.flatMap Fragment.text :=
        List.flatMap_assoc
    _ = (text.tokens true).flatMap Token.text := by
        rw [List.flatMap_def, List.flatMap_def, List.map_congr_left hfragments]
    _ = text := flatMap_text_tokens true text

/-- A fragment has no character that the text does not have. -/
theorem mem_of_mem_fragments {text : Text} {fragment : Fragment} (h : fragment ∈ text.fragments)
    {c : Char} (hc : c ∈ fragment.text) : c ∈ text := by
  rw [← flatMap_fragments text]
  exact List.mem_flatMap.2 ⟨fragment, h, hc⟩

/-- The fragments of a text are those of its tokens, one token after another.  One after another
    they are the text, and each mark around a substitution that is a fragment of its own stands at
    that end of the token it is cut from. -/
theorem fragments_partition (text : Text) :
    text.fragments = (text.tokens true).flatMap Token.fragments ∧
      text.fragments.flatMap Fragment.text = text ∧
      ∀ token ∈ text.tokens true, token.CutAtMarks :=
  ⟨rfl, flatMap_fragments text, tokens_cutAtMarks true text⟩

/-- Two substitutions, and a brace inside of one: the piece between them is cut at both ends. -/
theorem fragments_partition_middle :
    ⟨.templateMiddle, ['}', '-', '$', '{']⟩ ∈ Text.tokens true
        ['\x60', '$', '{', '{', '}', '}', '-', '$', '{', 'c', '}', '\x60'] ∧
      Token.CutAtMarks ⟨.templateMiddle, ['}', '-', '$', '{']⟩ := by
  have hmem : ⟨.templateMiddle, ['}', '-', '$', '{']⟩ ∈ Text.tokens true
      ['\x60', '$', '{', '{', '}', '}', '-', '$', '{', 'c', '}', '\x60'] := by
    decide +kernel
  exact ⟨hmem, (fragments_partition _).2.2 _ hmem⟩

end SyntaxColor
