/-
  Line breaks in tokens and fragments.  Nine kinds of tokens may go on behind the end of a line: all
  others stay on theirs.  A string may only where the line break is escaped.

  `keepsSeams_fragments`: no line break goes on from one fragment of a text to the next.
  `Takes.staysOnLine`: which steps read a token that stays on its line.
  `StringItems.escapesLineBreaks`: what a string is made of escapes its line breaks.
  `lineBreaks_inside_tokens`: so it is in all tokens and fragments of a text.
-/
import SyntaxColor.Proofs.Fragment
import SyntaxColor.Proofs.Grammar.Quotation
import SyntaxColor.Proofs.Token.Seam

namespace SyntaxColor

open Text

/-! ## Between fragments -/

/-- No line break goes on from one fragment of a token to the next. -/
theorem keepsSeams_fragments_token {token : Token} (h : token.CutAtMarks) :
    KeepsSeams (token.fragments.map Fragment.text) := by
  have hopening : KeepsSeams [['$', '\x7b']] := .cons (by simp [CutsLineBreak]) .nil
  have hbody (body : Text) : KeepsSeams [body, ['$', '\x7b']] :=
    .cons (not_cutsLineBreak_of_head? rfl (by decide) body) hopening
  have hclosing {after : Text} : ¬ CutsLineBreak ['\x7d'] after := by simp [CutsLineBreak]
  obtain ⟨kind, text⟩ := token
  cases kind with
  | templateHead =>
    obtain ⟨body, -, hfragments⟩ := h
    rw [hfragments]
    exact hbody body
  | templateMiddle =>
    obtain ⟨body, -, hfragments⟩ := h
    rw [hfragments]
    exact .cons hclosing (hbody body)
  | templateTail =>
    obtain ⟨body, -, hfragments⟩ := h
    rw [hfragments]
    exact .cons hclosing (.cons (by simp [CutsLineBreak]) .nil)
  | _ => exact .cons (by simp [CutsLineBreak]) .nil

/-- No line break goes on from one fragment of a text to the next. -/
theorem keepsSeams_fragments (text : Text) : KeepsSeams (text.fragments.map Fragment.text) := by
  have hmarks := tokens_cutAtMarks true text
  have hpieces : text.fragments.map Fragment.text =
      ((text.tokens true).map fun token => token.fragments.map Fragment.text).flatten := by
    rw [Text.fragments, List.map_flatMap, List.flatMap_def]
  have htokens : ((text.tokens true).map fun token => token.fragments.map Fragment.text).map
      List.flatten = (text.tokens true).map Token.text := by
    rw [List.map_map]
    refine List.map_congr_left fun token hmem => ?_
    exact (List.flatMap_def).symm.trans (flatMap_text_fragments (hmarks token hmem))
  rw [hpieces]
  refine .flatten (htokens ▸ keepsSeams_tokens true text) fun smaller hsmaller => ?_
  obtain ⟨token, hmem, rfl⟩ := List.mem_map.1 hsmaller
  exact keepsSeams_fragments_token (hmarks token hmem)

/-! ## On one line -/

/-- Whether tokens of this kind may go on behind the end of a line. -/
def Kind.maySpanLines : Kind → Bool
  | .lineBreak | .blockComment | .template | .templateHead | .templateMiddle | .templateTail
  | .jsxValue | .jsxContent | .string => true
  | _ => false

namespace Lexeme

theorem madeOf_punctuator (text : Text) :
    MadeOf (fun c => !isLineEnd c) text (punctuator text) := by
  by_cases h : punctuator text = 0
  · rw [h]
    exact madeOf_zero _ _
  · have htable : punctuators.all (fun mark => mark.all fun c => !isLineEnd c) = true := by decide
    exact List.all_eq_true.1 (List.all_eq_true.1 htable _ (take_punctuator_mem h))

theorem madeOf_jsxName (text : Text) : MadeOf (fun c => !isLineEnd c) text (jsxName text) := by
  fun_cases jsxName text with
  | case1 => exact (madeOf_runLength isJsxNamePart _).staysOnLine (by decide +kernel)
  | case2 => exact madeOf_zero _ _
  | case3 => exact madeOf_zero _ _

theorem madeOf_hashbang (text : Text) : MadeOf (fun c => !isLineEnd c) text (hashbang text) := by
  unfold hashbang
  split
  · exact madeOf_runLength _ _
  · exact madeOf_zero _ _

end Lexeme

section Takes

variable {jsx : Bool} {s : Context} {text : Text} {step : Step}

theorem madeOf_one {c : Char} (hc : isLineEnd c = false) (rest : Text) :
    MadeOf (fun c => !isLineEnd c) (c :: rest) 1 :=
  madeOf_cons.2 ⟨by simp [hc], madeOf_zero _ _⟩

/-- A step that reads a token of another kind stays on the line. -/
theorem Takes.staysOnLine (h : Takes jsx s text step) (hkind : step.kind.maySpanLines = false) :
    MadeOf (fun c => !isLineEnd c) text step.length := by
  cases h with
  | regex => exact Lexeme.madeOf_regex text
  | punctuator => exact Lexeme.madeOf_punctuator text
  | identifier | privateName => exact Lexeme.madeOf_name text
  | number => exact (Lexeme.madeOf_number text).staysOnLine (by decide)
  | jsxName => exact Lexeme.madeOf_jsxName text
  | whitespace => exact (madeOf_runLength Lexeme.isBlank text).staysOnLine (by decide)
  | lineComment => exact Lexeme.madeOf_lineComment text
  | jsxHoleEnd | tagStart | openTag | closeTag | openHole | slash | childTag | childHole =>
    exact madeOf_one (by decide) _
  | otherMark _ hmark =>
    simp only [List.mem_cons, List.not_mem_nil, or_false] at hmark
    refine madeOf_one ?_ _
    obtain rfl | rfl | rfl | rfl := hmark <;> decide
  | stray _ hrules | jsxStray _ hrules =>
    exact madeOf_one (noTrivia_of_rules hrules).isLineEnd _
  | templateMiddle | templateTail | templateHead | template | string | jsxValue | jsxContent
  | lineBreak | blockComment => cases hkind

end Takes

/-! ## In strings -/

/-- Whether the character behind the text is escaped: right before it stands a backslash that is
    not escaped itself. -/
def Text.escapesNext (text : Text) : Bool :=
  text.foldl (fun escaped c => c = '\\' && !escaped) false

/-- Each line feed and each carriage return of the text is escaped, or is the line feed behind an
    escaped carriage return. -/
def Text.EscapesLineBreaks (text : Text) : Prop :=
  ∀ before c after, text = before ++ c :: after → (c = '\n' ∨ c = '\r') →
    escapesNext before = true ∨
      c = '\n' ∧ ∃ earlier, before = earlier ++ ['\r'] ∧ escapesNext earlier = true

section Strings

variable {text rest : Text}

theorem escapesNext_append (h : escapesNext text = false) (rest : Text) :
    escapesNext (text ++ rest) = escapesNext rest := by
  rw [escapesNext, List.foldl_append, ← escapesNext, h, escapesNext]

theorem Text.EscapesLineBreaks.nil : EscapesLineBreaks [] := by
  rintro before c after h
  simp at h

/-- What is put behind a text that escapes nothing behind it is read on its own. -/
theorem Text.EscapesLineBreaks.append (h : EscapesLineBreaks text)
    (hend : escapesNext text = false) (h' : EscapesLineBreaks rest) :
    EscapesLineBreaks (text ++ rest) := by
  intro before c after hsplit hc
  obtain ⟨more, rfl, rfl⟩ | ⟨more, rfl, hmore⟩ := List.append_eq_append_iff.1 hsplit
  · rw [escapesNext_append hend]
    refine (h' more c after rfl hc).imp id ?_
    rintro ⟨hfeed, earlier, rfl, hearlier⟩
    refine ⟨hfeed, text ++ earlier, (List.append_assoc ..).symm, ?_⟩
    rw [escapesNext_append hend, hearlier]
  · obtain ⟨rfl, hrest⟩ | ⟨more, rfl, -⟩ := List.cons_eq_append_iff.1 hmore
    · -- The character is the first one of the rest, where nothing escapes it.
      obtain hescaped | ⟨-, earlier, hnil, -⟩ := h' [] c after hrest hc
      · cases hescaped
      · simp at hnil
    · exact h before c more rfl hc

theorem escapesLineBreaks_char {c : Char} (hc : c ≠ '\r' ∧ c ≠ '\n') : EscapesLineBreaks [c] := by
  intro before d after hsplit hd
  obtain ⟨rfl, hcons⟩ | ⟨more, -, hnil⟩ := List.cons_eq_append_iff.1 hsplit
  · obtain ⟨rfl, -⟩ := List.cons.inj hcons
    exact absurd hd (by simp [hc])
  · simp at hnil

theorem escapesLineBreaks_escape (e : Char) : EscapesLineBreaks ['\\', e] := by
  intro before c after hsplit hc
  obtain _ | ⟨b, _ | ⟨b', before⟩⟩ := before
  · obtain rfl := (List.cons.inj hsplit).1
    simp at hc
  · obtain rfl := (List.cons.inj hsplit).1
    exact .inl rfl
  · simp at hsplit

theorem escapesLineBreaks_escapedPair : EscapesLineBreaks ['\\', '\r', '\n'] := by
  intro before c after hsplit hc
  obtain _ | ⟨b, _ | ⟨b', _ | ⟨b'', before⟩⟩⟩ := before
  · obtain rfl := (List.cons.inj hsplit).1
    simp at hc
  · obtain rfl := (List.cons.inj hsplit).1
    exact .inl rfl
  · simp only [List.cons_append, List.nil_append, List.cons.injEq] at hsplit
    obtain ⟨rfl, rfl, rfl, -⟩ := hsplit
    exact .inr ⟨rfl, ['\\'], rfl, rfl⟩
  · simp at hsplit

theorem escapesNext_singleton {c : Char} (hc : c ≠ '\\') : escapesNext [c] = false := by
  simp [escapesNext, hc]

/-- The items of a string escape its line breaks, and nothing behind them. -/
theorem StringItems.escapesLineBreaks {quote : Char} {items : Text}
    (h : Lexeme.StringItems quote items) :
    EscapesLineBreaks items ∧ escapesNext items = false := by
  have happend {item items : Text} (hitem : EscapesLineBreaks item)
      (hend : escapesNext item = false) (h : EscapesLineBreaks items ∧ escapesNext items = false) :
      EscapesLineBreaks (item ++ items) ∧ escapesNext (item ++ items) = false :=
    ⟨hitem.append hend h.1, by rw [escapesNext_append hend, h.2]⟩
  induction h with
  | nil => exact ⟨.nil, rfl⟩
  | escapedPair _ ih => exact happend escapesLineBreaks_escapedPair rfl ih
  | @escape e _ _ ih =>
    refine happend (escapesLineBreaks_escape e) ?_ ih
    simp [escapesNext]
  | char hc _ ih =>
    simp only [List.mem_cons, List.not_mem_nil, or_false, not_or] at hc
    exact happend (escapesLineBreaks_char hc.2.2) (escapesNext_singleton hc.2.1) ih

/-- A string escapes its line breaks. -/
theorem escapesLineBreaks_string (text : Text) :
    EscapesLineBreaks (text.take (Lexeme.string text)) := by
  have h := Lexeme.stringAt_string text
  generalize Lexeme.string text = n at h
  cases h with
  | none => exact .nil
  | @string quote rest n hquote h =>
    have hplain := Lexeme.plain_of_quote hquote
    have hopening := escapesLineBreaks_char hplain.2
    have hbody : EscapesLineBreaks (rest.take n) := by
      cases h with
      | @closed items h tail =>
        obtain ⟨hescapes, hnext⟩ := StringItems.escapesLineBreaks h
        rw [List.take_length_add_append, List.take_succ_cons, List.take_zero]
        exact hescapes.append hnext hopening
      | cut h =>
        rw [List.take_left]
        exact (StringItems.escapesLineBreaks h).1
    rw [List.take_succ_cons]
    exact hopening.append (escapesNext_singleton hplain.1) hbody

end Strings

theorem Takes.escapesLineBreaks {jsx : Bool} {s : Context} {text : Text} {step : Step}
    (h : Takes jsx s text step) (hkind : step.kind = .string) :
    EscapesLineBreaks (text.take step.length) := by
  cases h with
  | string => exact escapesLineBreaks_string text
  | _ => cases hkind

/-! ## Every text -/

/-- No line break goes on from one token of a text to the next, nor from one fragment to the next.
    A line ends only inside tokens of the kinds that may go on behind its end, and inside a string
    only where the line break is escaped. -/
theorem lineBreaks_inside_tokens (jsx : Bool) (text : Text) :
    KeepsSeams ((text.tokens jsx).map Token.text) ∧
      KeepsSeams (text.fragments.map Fragment.text) ∧
      (∀ token ∈ text.tokens jsx, (∃ c ∈ token.text, isLineEnd c = true) →
        token.kind.maySpanLines = true) ∧
      ∀ token ∈ text.tokens jsx, token.kind = .string → EscapesLineBreaks token.text := by
  refine ⟨keepsSeams_tokens jsx text, keepsSeams_fragments text, ?_, ?_⟩
  · refine forall_tokens (fun _ => ?_) fun s text htext => ?_
    · rintro ⟨c, hc, hend⟩
      have := Lexeme.madeOf_hashbang text c hc
      simp [hend] at this
    · rintro ⟨c, hc, hend⟩
      cases hkind : (s.step jsx text).kind.maySpanLines with
      | true => exact hkind
      | false =>
        have := (takes_step jsx s htext).staysOnLine hkind c hc
        simp [hend] at this
  · refine forall_tokens (fun _ hkind => by cases hkind) fun s text htext hkind => ?_
    exact (takes_step jsx s htext).escapesLineBreaks hkind

/-- A string that goes on behind a line break: of the three backslashes before it, the first escapes
    the second, and the third the line break. -/
theorem lineBreaks_inside_tokens_string :
    ⟨.string, ['\'', '\\', '\\', '\\', '\r', '\n', '\'']⟩ ∈
        Text.tokens false ['\'', '\\', '\\', '\\', '\r', '\n', '\'', ';'] ∧
      Kind.maySpanLines .string = true ∧
      EscapesLineBreaks ['\'', '\\', '\\', '\\', '\r', '\n', '\''] := by
  have hmem : ⟨.string, ['\'', '\\', '\\', '\\', '\r', '\n', '\'']⟩ ∈
      Text.tokens false ['\'', '\\', '\\', '\\', '\r', '\n', '\'', ';'] := by
    decide +kernel
  obtain ⟨-, -, hspans, hescapes⟩ :=
    lineBreaks_inside_tokens false ['\'', '\\', '\\', '\\', '\r', '\n', '\'', ';']
  exact ⟨hmem, hspans _ hmem ⟨'\r', by simp, rfl⟩, hescapes _ hmem rfl⟩

end SyntaxColor
