/-
  The lines of a text, one after another.

  `IsLineBreak`: a line break, which a carriage return shares with the line feed behind it.
  `lines_cases`, `lines_induction`: a text is one line without a line break, or begins with a line
  and its line break, behind which the rest has its own lines.
-/
import SyntaxColor.Proofs.Token.Seam

namespace SyntaxColor

open Text

/-- A line break, before this rest of the text. -/
inductive IsLineBreak : Text → Text → Prop
  | pair (rest : Text) : IsLineBreak ['\r', '\n'] rest
  | single {c : Char} {rest : Text} (hc : isLineEnd c = true)
      (hseam : ¬ CutsLineBreak [c] rest) : IsLineBreak [c] rest

theorem lines_lineBreak {lineBreak rest : Text} (h : IsLineBreak lineBreak rest) :
    (lineBreak ++ rest).lines = ⟨[], lineBreak⟩ :: rest.lines := by
  cases h with
  | pair => rfl
  | @single c _ hc hseam =>
    rw [List.singleton_append, lines.eq_3, if_pos hc]
    rintro more rfl rfl
    exact hseam ⟨rfl, rfl⟩

theorem lines_cons {c : Char} (hc : isLineEnd c = false) (rest : Text) :
    lines (c :: rest) = rest.lines.modifyHead (Line.cons c) := by
  rw [lines.eq_3, if_neg (by simp [hc])]
  rintro more rfl
  cases hc

/-- A text is one line without a line break, or begins with a line and its line break. -/
theorem lines_cases (text : Text) :
    ((∀ c ∈ text, isLineEnd c = false) ∧ text.lines = [⟨text, []⟩]) ∨
      ∃ content lineBreak rest, (∀ c ∈ content, isLineEnd c = false) ∧
        IsLineBreak lineBreak rest ∧ text = content ++ (lineBreak ++ rest) ∧
        text.lines = ⟨content, lineBreak⟩ :: rest.lines := by
  fun_induction lines text with
  | case1 => exact .inl ⟨by simp, rfl⟩
  | case2 rest => exact .inr ⟨[], _, rest, by simp, .pair rest, rfl, rfl⟩
  | case3 c rest hpair hend =>
    refine .inr ⟨[], [c], rest, by simp, .single hend ?_, rfl, rfl⟩
    rintro ⟨hc, hhead⟩
    obtain ⟨more, rfl⟩ := List.head?_eq_some_iff.1 hhead
    exact hpair more (by simpa using hc) rfl
  | case4 c rest _ hend ih =>
    have hc : isLineEnd c = false := by simpa using hend
    obtain ⟨hcontent, hlines⟩ | ⟨content, lineBreak, more, hcontent, hbreak, rfl, hlines⟩ := ih
    · refine .inl ⟨List.forall_mem_cons.2 ⟨hc, hcontent⟩, ?_⟩
      rw [hlines]
      rfl
    · refine .inr ⟨c :: content, lineBreak, more, List.forall_mem_cons.2 ⟨hc, hcontent⟩, hbreak,
        rfl, ?_⟩
      rw [hlines]
      rfl

theorem IsLineBreak.length_pos {lineBreak rest : Text} (h : IsLineBreak lineBreak rest) :
    0 < lineBreak.length := by
  cases h <;> simp

/-- What holds of one line, and of a line before a text that it holds of, holds of every text. -/
@[elab_as_elim]
theorem lines_induction {motive : Text → Prop}
    (last : ∀ content, (∀ c ∈ content, isLineEnd c = false) →
      lines content = [⟨content, []⟩] → motive content)
    (line : ∀ content lineBreak rest, (∀ c ∈ content, isLineEnd c = false) →
      IsLineBreak lineBreak rest →
      lines (content ++ (lineBreak ++ rest)) = ⟨content, lineBreak⟩ :: rest.lines →
      motive rest → motive (content ++ (lineBreak ++ rest)))
    (text : Text) : motive text := by
  induction hlength : text.length using Nat.strongRecOn generalizing text with
  | ind n ih =>
    obtain ⟨hcontent, hlines⟩ | ⟨content, lineBreak, rest, hcontent, hbreak, rfl, hlines⟩ :=
      lines_cases text
    · exact last text hcontent hlines
    · have hpos := hbreak.length_pos
      simp only [List.length_append] at hlength
      have hrest := ih rest.length (by omega) rest rfl
      exact line content lineBreak rest hcontent hbreak hlines hrest

theorem IsLineBreak.isLineEnd {lineBreak rest : Text} (h : IsLineBreak lineBreak rest) :
    ∀ c ∈ lineBreak, Text.isLineEnd c = true := by
  cases h with
  | pair => simp [Text.isLineEnd]
  | single hc => simpa using hc

/-- A line has no end of a line on it. -/
theorem isLineEnd_of_mem_content {text : Text} {line : Line} (h : line ∈ text.lines) :
    ∀ c ∈ line.content, isLineEnd c = false := by
  induction text using lines_induction with
  | last content hcontent hlines =>
    rw [hlines, List.mem_singleton] at h
    subst h
    exact hcontent
  | line content lineBreak rest hcontent _ hlines ih =>
    rw [hlines, List.mem_cons] at h
    obtain rfl | hrest := h
    · exact hcontent
    · exact ih hrest

/-- A line break stays one where something is put behind the text. -/
theorem IsLineBreak.append {lineBreak text more : Text} (h : IsLineBreak lineBreak text)
    (hseam : ¬ CutsLineBreak (lineBreak ++ text) more) : IsLineBreak lineBreak (text ++ more) := by
  cases h with
  | pair => exact .pair _
  | single hc hcut =>
    refine .single hc fun hnew => ?_
    cases text with
    | nil => exact hseam (by simpa using hnew)
    | cons d rest => exact hcut ⟨hnew.1, by simpa using hnew.2⟩

theorem IsLineBreak.of_head? {lineBreak text other : Text} (h : IsLineBreak lineBreak text)
    (hhead : other.head? = some '\n' → text.head? = some '\n') : IsLineBreak lineBreak other := by
  cases h with
  | pair => exact .pair _
  | single hc hseam => exact .single hc fun hcut => hseam ⟨hcut.1, hhead hcut.2⟩

end SyntaxColor
