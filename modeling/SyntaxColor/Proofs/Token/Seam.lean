/-
  The seams between tokens.  A carriage return and the line feed behind it are one line break; what
  is said of the lines of a text would not hold of its tokens if one of them ended in between.

  `Takes.keepsLineBreaks`: no step ends inside a line break.
  `Reached.keepsLineBreaks`: so the lexer never stands inside one.
  `keepsSeams_tokens`: so none goes on from one token of a text to the next.
-/
import SyntaxColor.Proofs.Token.Stray

namespace SyntaxColor

open Text

/-- A line break begins at the end of one text and goes on in the other. -/
def CutsLineBreak (before after : Text) : Prop :=
  before.getLast? = some '\r' ∧ after.head? = some '\n'

namespace CutsLineBreak

variable {before after : Text}

theorem append_left (more : Text) (h : CutsLineBreak before after) :
    CutsLineBreak (more ++ before) after := by
  obtain ⟨before', rfl⟩ := List.getLast?_eq_some_iff.1 h.1
  exact ⟨by simp, h.2⟩

theorem cons (c : Char) (h : CutsLineBreak before after) : CutsLineBreak (c :: before) after :=
  h.append_left [c]

theorem of_append_left {more : Text} (hne : before ≠ [])
    (h : CutsLineBreak (more ++ before) after) : CutsLineBreak before after := by
  obtain ⟨c, hlast⟩ := Option.ne_none_iff_exists'.1 (mt List.getLast?_eq_none_iff.1 hne)
  have hreturn := h.1
  rw [List.getLast?_append, hlast, Option.some_or, ← hlast] at hreturn
  exact ⟨hreturn, h.2⟩

theorem of_append_right {more : Text} (hne : after ≠ [])
    (h : CutsLineBreak before (after ++ more)) : CutsLineBreak before after := by
  obtain ⟨c, rest, rfl⟩ := List.exists_cons_of_ne_nil hne
  exact ⟨h.1, h.2⟩

end CutsLineBreak

theorem not_cutsLineBreak_of_head? {after : Text} {c : Char} (hhead : after.head? = some c)
    (hc : c ≠ '\n') (before : Text) : ¬ CutsLineBreak before after := by
  rintro ⟨-, hfeed⟩
  rw [hhead] at hfeed
  exact hc (Option.some.inj hfeed)

/-- No line break goes on behind the first `n` characters of the text. -/
def KeepsLineBreaks (text : Text) (n : Nat) : Prop := ¬ CutsLineBreak (text.take n) (text.drop n)

/-! ## Pieces of a text -/

/-- No line break goes on where one of the pieces ends and the next begins. -/
def KeepsSeams (pieces : List Text) : Prop :=
  ∀ before after, pieces = before ++ after → ¬ CutsLineBreak before.flatten after.flatten

namespace KeepsSeams

variable {piece : Text} {pieces more : List Text}

theorem nil : KeepsSeams [] := by
  intro before after h
  obtain ⟨rfl, rfl⟩ := List.nil_eq_append_iff.1 h
  simp [CutsLineBreak]

theorem cons (hseam : ¬ CutsLineBreak piece pieces.flatten) (h : KeepsSeams pieces) :
    KeepsSeams (piece :: pieces) := by
  intro before after hsplit hcut
  obtain ⟨rfl, -⟩ | ⟨before, rfl, rfl⟩ := List.cons_eq_append_iff.1 hsplit
  · simp [CutsLineBreak] at hcut
  · by_cases hempty : before.flatten = []
    · rw [List.flatten_cons, hempty, List.append_nil] at hcut
      rw [List.flatten_append, hempty, List.nil_append] at hseam
      exact hseam hcut
    · exact h before after rfl (hcut.of_append_left hempty)

theorem head (h : KeepsSeams (piece :: pieces)) : ¬ CutsLineBreak piece pieces.flatten := by
  simpa using h [piece] pieces rfl

theorem tail (h : KeepsSeams (piece :: pieces)) : KeepsSeams pieces := by
  rintro before after rfl hcut
  exact h (piece :: before) after rfl (by simpa using hcut.append_left piece)

theorem append (h : KeepsSeams pieces) (hseam : ¬ CutsLineBreak pieces.flatten more.flatten)
    (hmore : KeepsSeams more) : KeepsSeams (pieces ++ more) := by
  induction pieces with
  | nil => exact hmore
  | cons piece pieces ih =>
    have hrest : ¬ CutsLineBreak pieces.flatten more.flatten :=
      fun hcut => hseam (by simpa using hcut.append_left piece)
    rw [List.cons_append]
    refine .cons (fun hcut => ?_) (ih h.tail hrest)
    rw [List.flatten_append] at hcut
    by_cases hempty : pieces.flatten = []
    · exact hseam (by simpa [hempty] using hcut)
    · exact h.head (hcut.of_append_right hempty)

/-- Pieces may be cut into smaller ones, each on its own. -/
theorem flatten {pieces : List (List Text)} (h : KeepsSeams (pieces.map List.flatten))
    (hpieces : ∀ smaller ∈ pieces, KeepsSeams smaller) : KeepsSeams pieces.flatten := by
  induction pieces with
  | nil => exact .nil
  | cons smaller pieces ih =>
    obtain ⟨hfirst, hrest⟩ := List.forall_mem_cons.1 hpieces
    refine hfirst.append ?_ (ih h.tail hrest)
    rw [List.flatten_flatten]
    exact h.head

end KeepsSeams

/-! ## Reasons why a line break is kept -/

section Reasons

variable {text rest : Text} {c : Char} {n : Nat}

theorem keepsLineBreaks_zero (text : Text) : KeepsLineBreaks text 0 := by
  simp [KeepsLineBreaks, CutsLineBreak]

theorem keepsLineBreaks_of_getLast? (hlast : (text.take n).getLast? = some c) (hc : c ≠ '\r') :
    KeepsLineBreaks text n := by
  rintro ⟨hreturn, -⟩
  rw [hlast] at hreturn
  exact hc (Option.some.inj hreturn)

theorem keepsLineBreaks_of_head? (h : (text.drop n).head? ≠ some '\n') : KeepsLineBreaks text n :=
  fun hcut => h hcut.2

theorem KeepsLineBreaks.of_madeOf {p : Char → Bool} (h : MadeOf p text n) (hp : p '\r' = false) :
    KeepsLineBreaks text n := by
  rintro ⟨hreturn, -⟩
  have := h '\r' (List.mem_of_getLast? hreturn)
  rw [hp] at this
  cases this

theorem KeepsLineBreaks.cons (h : KeepsLineBreaks rest n)
    (hc : c = '\r' → n = 0 → rest.head? ≠ some '\n') : KeepsLineBreaks (c :: rest) (n + 1) := by
  rintro ⟨hlast, hhead⟩
  rw [List.take_succ_cons, List.getLast?_cons] at hlast
  rw [List.drop_succ_cons] at hhead
  cases hmore : (rest.take n).getLast? with
  | none =>
    -- Nothing of `rest` is taken, so the line feed would be its first character.
    obtain rfl : c = '\r' := by simpa [hmore] using hlast
    obtain hzero | hnil := List.take_eq_nil_iff.1 (List.getLast?_eq_none_iff.1 hmore)
    · exact hc rfl hzero (by simpa [hzero] using hhead)
    · simp [hnil] at hhead
  | some d =>
    obtain rfl : d = '\r' := by simpa [hmore] using hlast
    exact h ⟨hmore, hhead⟩

theorem keepsLineBreaks_one (hc : c ≠ '\r') (rest : Text) : KeepsLineBreaks (c :: rest) 1 :=
  (keepsLineBreaks_zero rest).cons fun h => absurd h hc

/-- A run goes on up to a character that is not of its class. -/
theorem head?_drop_runLength {p : Char → Bool}
    (h : (text.drop (text.runLength p)).head? = some c) : p c = false := by
  induction text with
  | nil => simp at h
  | cons d rest ih =>
    cases hd : p d with
    | true =>
      rw [runLength, List.takeWhile_cons_of_pos hd, List.length_cons, List.drop_succ_cons] at h
      exact ih h
    | false =>
      rw [runLength, List.takeWhile_cons_of_neg (by simp [hd])] at h
      obtain rfl : d = c := by simpa using h
      exact hd

end Reasons

/-! ## Lexemes -/

namespace Lexeme

theorem keepsLineBreaks_lineBreak (text : Text) : KeepsLineBreaks text (lineBreak text) := by
  unfold lineBreak
  fun_cases lineBreakLength text with
  | case1 rest => exact (keepsLineBreaks_one (by decide) rest).cons (by simp)
  | case2 c rest hpair hend =>
    refine (keepsLineBreaks_zero rest).cons fun hc _ hhead => ?_
    obtain ⟨more, rfl⟩ := List.head?_eq_some_iff.1 hhead
    exact hpair more hc rfl
  | case3 => exact keepsLineBreaks_zero _
  | case4 => exact keepsLineBreaks_zero _

theorem throughCommentEnd_eq_zero {text : Text} (h : throughCommentEnd text = 0) : text = [] := by
  fun_cases throughCommentEnd text <;> simp_all [throughCommentEnd]

theorem keepsLineBreaks_blockComment (text : Text) :
    KeepsLineBreaks text (blockComment text) := by
  have hend : ∀ rest : Text, KeepsLineBreaks rest (throughCommentEnd rest) := by
    intro rest
    fun_induction throughCommentEnd rest with
    | case1 => exact keepsLineBreaks_zero _
    | case2 rest => exact (keepsLineBreaks_one (by decide) rest).cons (by simp)
    | case3 c rest _ ih =>
      refine ih.cons fun _ hzero => ?_
      rw [throughCommentEnd_eq_zero hzero]
      simp
  fun_cases blockComment text with
  | case1 rest => exact ((hend rest).cons (by simp)).cons (by simp)
  | case2 => exact keepsLineBreaks_zero _

theorem keepsLineBreaks_punctuator (text : Text) : KeepsLineBreaks text (punctuator text) := by
  by_cases h : punctuator text = 0
  · rw [h]
    exact keepsLineBreaks_zero text
  · have htable : ∀ mark ∈ punctuators, '\r' ∉ mark := by decide
    exact fun hcut => htable _ (take_punctuator_mem h) (List.mem_of_getLast? hcut.1)

theorem keepsLineBreaks_name {text : Text} (h : name text ≠ 0) :
    KeepsLineBreaks text (name text) := by
  obtain ⟨c, hlast, hc⟩ := getLast?_of_name h
  refine keepsLineBreaks_of_getLast? hlast ?_
  rintro rfl
  obtain hc | hc := hc
  · cases isLineEnd_of_continuesName hc
  · cases hc

theorem keepsLineBreaks_stringBody {quote : Char} (hquote : quote ≠ '\r') (text : Text) :
    KeepsLineBreaks text (stringBody quote text) := by
  fun_induction stringBody quote text with
  | case1 => exact keepsLineBreaks_zero _
  | case2 => exact keepsLineBreaks_zero _
  | case3 rest ih => exact ((ih.cons (by simp)).cons (by simp)).cons (by simp)
  | case4 e rest hpair ih =>
    refine (ih.cons fun he _ hhead => ?_).cons (by simp)
    obtain ⟨more, rfl⟩ := List.head?_eq_some_iff.1 hhead
    exact hpair more he rfl
  | case5 rest => exact keepsLineBreaks_one hquote rest
  | case6 => exact keepsLineBreaks_zero _
  | case7 c rest _ _ _ _ hend ih =>
    refine ih.cons ?_
    rintro rfl
    simp at hend

/-- A quote does not begin a line break. -/
theorem keepsLineBreaks_quoted {quote : Char} {rest : Text} {n : Nat}
    (hquote : isQuote quote = true) (h : quote ≠ '\r' → KeepsLineBreaks rest n) :
    KeepsLineBreaks (quote :: rest) (n + 1) := by
  have hne : quote ≠ '\r' := by
    rintro rfl
    cases hquote
  exact (h hne).cons fun hreturn => absurd hreturn hne

theorem keepsLineBreaks_string (text : Text) : KeepsLineBreaks text (string text) := by
  fun_cases string text with
  | case1 quote rest hquote =>
    exact keepsLineBreaks_quoted hquote fun hne => keepsLineBreaks_stringBody hne rest
  | case2 => exact keepsLineBreaks_zero _
  | case3 => exact keepsLineBreaks_zero _

theorem head?_of_templateBody_length_eq_zero {text : Text} (h : (templateBody text).length = 0) :
    text.head? ≠ some '\n' := by
  revert h
  fun_cases templateBody text <;> simp_all [TemplatePiece.after]

theorem keepsLineBreaks_templateBody (text : Text) :
    KeepsLineBreaks text (templateBody text).length := by
  fun_induction templateBody text with
  | case1 => exact keepsLineBreaks_zero _
  | case2 => exact keepsLineBreaks_zero _
  | case3 c rest ih =>
    exact (ih.cons fun _ => head?_of_templateBody_length_eq_zero).cons (by simp)
  | case4 rest => exact (keepsLineBreaks_one (by decide) rest).cons (by simp)
  | case5 rest => exact keepsLineBreaks_one (by decide) rest
  | case6 c rest _ _ _ _ ih => exact ih.cons fun _ => head?_of_templateBody_length_eq_zero

theorem throughQuote_eq_zero {quote : Char} {text : Text} (h : throughQuote quote text = 0) :
    text = [] := by
  revert h
  fun_cases throughQuote quote text <;> simp

theorem keepsLineBreaks_throughQuote {quote : Char} (hquote : quote ≠ '\r') (text : Text) :
    KeepsLineBreaks text (throughQuote quote text) := by
  fun_induction throughQuote quote text with
  | case1 => exact keepsLineBreaks_zero _
  | case2 rest => exact keepsLineBreaks_one hquote rest
  | case3 c rest _ ih =>
    refine ih.cons fun _ hzero => ?_
    rw [throughQuote_eq_zero hzero]
    simp

theorem keepsLineBreaks_jsxValue (text : Text) : KeepsLineBreaks text (jsxValue text) := by
  fun_cases jsxValue text with
  | case1 quote rest hquote =>
    exact keepsLineBreaks_quoted hquote fun hne => keepsLineBreaks_throughQuote hne rest
  | case2 => exact keepsLineBreaks_zero _
  | case3 => exact keepsLineBreaks_zero _

theorem keepsLineBreaks_jsxContent (text : Text) : KeepsLineBreaks text (jsxContent text) := by
  refine keepsLineBreaks_of_head? fun hhead => ?_
  have := head?_drop_runLength hhead
  cases this

theorem keepsLineBreaks_jsxName (text : Text) : KeepsLineBreaks text (jsxName text) := by
  fun_cases jsxName text with
  | case1 => exact .of_madeOf (madeOf_runLength isJsxNamePart _) (by decide)
  | case2 => exact keepsLineBreaks_zero _
  | case3 => exact keepsLineBreaks_zero _

theorem keepsLineBreaks_hashbang (text : Text) : KeepsLineBreaks text (hashbang text) := by
  unfold hashbang
  split
  · exact .of_madeOf (madeOf_runLength (fun c => !isLineEnd c) _) rfl
  · exact keepsLineBreaks_zero _

end Lexeme

/-! ## Steps -/

/-- No step ends inside a line break. -/
theorem Takes.keepsLineBreaks {jsx : Bool} {s : Context} {text : Text} {step : Step}
    (h : Takes jsx s text step) : KeepsLineBreaks text step.length := by
  cases h with
  | regex => exact .of_madeOf (Lexeme.madeOf_regex text) rfl
  | templateMiddle | templateTail | templateHead | template =>
    exact (Lexeme.keepsLineBreaks_templateBody _).cons (by simp)
  | jsxHoleEnd | tagStart | openTag | closeTag | openHole | slash | childTag | childHole =>
    exact keepsLineBreaks_one (by decide) _
  | otherMark _ hmark =>
    refine keepsLineBreaks_one ?_ _
    rintro rfl
    simp at hmark
  | punctuator => exact Lexeme.keepsLineBreaks_punctuator text
  | identifier _ hlength | privateName _ hlength => exact Lexeme.keepsLineBreaks_name hlength
  | string => exact Lexeme.keepsLineBreaks_string text
  | number => exact .of_madeOf (Lexeme.madeOf_number text) (by decide)
  | jsxName => exact Lexeme.keepsLineBreaks_jsxName text
  | jsxValue => exact Lexeme.keepsLineBreaks_jsxValue text
  | jsxContent => exact Lexeme.keepsLineBreaks_jsxContent text
  | whitespace => exact .of_madeOf (madeOf_runLength Lexeme.isBlank text) (by decide)
  | lineBreak => exact Lexeme.keepsLineBreaks_lineBreak text
  | blockComment => exact Lexeme.keepsLineBreaks_blockComment text
  | lineComment => exact .of_madeOf (Lexeme.madeOf_lineComment text) rfl
  | stray _ hrules | jsxStray _ hrules =>
    refine keepsLineBreaks_one ?_ _
    rintro rfl
    cases (noTrivia_of_rules hrules).isLineEnd

/-! ## Runs -/

/-- The lexer never stands inside a line break. -/
theorem Reached.keepsLineBreaks {jsx : Bool} {text rest : Text} {seen : List Entry} {s : Context}
    (h : Reached jsx text seen s rest) : ¬ CutsLineBreak (seen.flatMap (·.1.text)) rest := by
  induction h with
  | start => simp [CutsLineBreak]
  | hashbang =>
    have := Lexeme.keepsLineBreaks_hashbang text
    simpa [KeepsLineBreaks] using this
  | @step seen s rest _ hrest _ _ =>
    have hne := entry_text_ne_nil jsx s hrest
    intro hcut
    rw [List.flatMap_append, List.flatMap_singleton] at hcut
    exact (takes_step jsx s hrest).keepsLineBreaks (hcut.of_append_left hne)

/-- No line break goes on from one token of a text to the next. -/
theorem keepsSeams_tokens (jsx : Bool) (text : Text) :
    KeepsSeams ((text.tokens jsx).map Token.text) := by
  intro before after hsplit
  rw [Text.tokens, List.map_map] at hsplit
  obtain ⟨seen, later, htrace, rfl, rfl⟩ := List.map_eq_append_iff.1 hsplit
  obtain ⟨rest, hreached⟩ := reached_of_trace_eq htrace
  obtain ⟨_, hend⟩ := reached_trace jsx text
  have hrest : rest = later.flatMap (·.1.text) := by
    have htext := hreached.text_eq.symm.trans hend.text_eq
    rw [htrace, List.flatMap_append, List.append_assoc, List.append_nil] at htext
    exact List.append_cancel_left htext
  have hkeeps := hreached.keepsLineBreaks
  rw [hrest, List.flatMap_def, List.flatMap_def] at hkeeps
  exact hkeeps

end SyntaxColor
