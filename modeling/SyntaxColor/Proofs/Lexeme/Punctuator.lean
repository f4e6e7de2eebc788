/-
  The table of punctuators.

  The scanner looks for marks in order, stops at the first, and adds an equals sign only to the
  operators.  Altogether that is a search through one table, and its order is what makes the first
  mark the longest one: no mark of it stands behind a shorter one that it begins with.

  `InOrder`: that order, and `length_le_firstMark`: what follows from it.
  `punctuator_eq_firstMark`: the parts of the scanner put together, outside of comments.
  `mem_orderedMarks_iff`: the marks that it looks for are the punctuators.
  `punctuator_isLongest`: the scanner finds the longest punctuator that the text begins with.
-/
import SyntaxColor.Proofs.Lexeme.Length

namespace SyntaxColor.Lexeme

/-! ## The table -/

/-- All punctuators. -/
def punctuators : List Text :=
  [['{'], ['}'], ['('], [')'], ['['], [']'], ['.'], ['.', '.', '.'], [';'], [','],
  ['<'], ['>'], ['<', '='], ['>', '='], ['=', '='], ['!', '='], ['=', '=', '='], ['!', '=', '='],
  ['+'], ['-'], ['*'], ['/'], ['%'], ['*', '*'], ['+', '+'], ['-', '-'],
  ['<', '<'], ['>', '>'], ['>', '>', '>'], ['&'], ['|'], ['^'], ['!'], ['~'],
  ['&', '&'], ['|', '|'], ['?', '?'], ['?'], ['?', '.'], [':'], ['='],
  ['+', '='], ['-', '='], ['*', '='], ['/', '='], ['%', '='], ['*', '*', '='],
  ['<', '<', '='], ['>', '>', '='], ['>', '>', '>', '='], ['&', '='], ['|', '='], ['^', '='],
  ['&', '&', '='], ['|', '|', '='], ['?', '?', '='], ['=', '>']]

/-- Whether a comment begins at the start of the text. -/
def BeginsComment (text : Text) : Prop := ['/', '/'] <+: text ∨ ['/', '*'] <+: text

instance : DecidablePred BeginsComment := fun _ => inferInstanceAs (Decidable (_ ∨ _))

/-- Whether `mark` is a punctuator where `text` begins with it: a point before a digit belongs to a
    number, and nothing is a punctuator where a comment begins. -/
structure CountsAsPunctuator (text mark : Text) : Prop where
  mem : mark ∈ punctuators
  point : mark ∈ [['.'], ['?', '.']] → startsWithDigit (text.drop mark.length) = false
  comment : ¬ BeginsComment text

/-! ## The first of a list of marks -/

section First

variable {marks : List Text} {text mark : Text}

theorem isPunctuatorOf_iff : isPunctuatorOf text mark = true ↔
    mark <+: text ∧
      (mark ∈ [['.'], ['?', '.']] → startsWithDigit (text.drop mark.length) = false) := by
  simp only [isPunctuatorOf, Bool.and_eq_true, List.isPrefixOf_iff_prefix, Bool.not_eq_true',
    Bool.and_eq_false_imp, Bool.or_eq_true, decide_eq_true_eq, List.mem_cons, List.not_mem_nil,
    or_false]

theorem exists_mark_of_firstMark (h : firstMark marks text ≠ 0) :
    ∃ mark ∈ marks, isPunctuatorOf text mark = true ∧ mark.length = firstMark marks text := by
  revert h
  fun_cases firstMark marks text with
  | case1 mark hmark =>
    exact fun _ => ⟨mark, List.mem_of_find?_eq_some hmark, List.find?_some hmark, rfl⟩
  | case2 => exact fun h => absurd rfl h

/-- No mark stands behind a shorter one that it begins with. -/
def InOrder (marks : List Text) : Prop :=
  marks.Pairwise fun mark later => mark <+: later → later.length ≤ mark.length

instance : DecidablePred InOrder := fun _ => inferInstanceAs (Decidable (List.Pairwise _ _))

/-- In order, the first mark that the text begins with is the longest one: of two beginnings of a
    text the shorter one begins the longer. -/
theorem length_le_firstMark (horder : InOrder marks) (hmark : mark ∈ marks)
    (hstart : isPunctuatorOf text mark = true) : mark.length ≤ firstMark marks text := by
  fun_cases firstMark marks text with
  | case1 first hfirst =>
    obtain ⟨hfound, before, after, rfl, hbefore⟩ := List.find?_eq_some_iff_append.1 hfirst
    obtain hmark | hmark := List.mem_append.1 hmark
    · have hnot := hbefore mark hmark
      simp [hstart] at hnot
    · obtain rfl | hmark := List.mem_cons.1 hmark
      · exact Nat.le_refl _
      · have hlater := (List.pairwise_cons.1 (List.pairwise_append.1 horder).2.1).1 mark hmark
        obtain hle | hge := Nat.le_total mark.length first.length
        · exact hle
        · exact hlater (List.prefix_of_prefix_length_le (isPrefix_of_isPunctuatorOf hfound)
            (isPrefix_of_isPunctuatorOf hstart) hge)
  | case2 hnone =>
    have hnot := List.find?_eq_none.1 hnone mark hmark
    exact absurd hstart hnot

/-- A second list is looked through where the first one has no mark for the text. -/
theorem firstMark_append (hne : [] ∉ marks) (more : List Text) (text : Text) :
    firstMark (marks ++ more) text =
      match firstMark marks text with
      | n + 1 => n + 1
      | 0 => firstMark more text := by
  unfold firstMark
  rw [List.find?_append]
  cases hfind : marks.find? (isPunctuatorOf text) with
  | none => rfl
  | some mark =>
    cases mark with
    | nil => exact absurd (List.mem_of_find?_eq_some hfind) hne
    | cons c mark => rfl

/-- The marks, each behind the one that an equals sign makes of it. -/
def withEquals (marks : List Text) : List Text := marks.flatMap fun mark => [mark ++ ['='], mark]

/-- A mark that is no point only has to begin the text. -/
theorem isPunctuatorOf_iff_isPrefix (hmark : mark ∉ [['.'], ['?', '.']]) (text : Text) :
    isPunctuatorOf text mark = true ↔ mark <+: text := by
  rw [isPunctuatorOf_iff]
  exact and_iff_left fun h => absurd h hmark

theorem append_equals_ne_point (mark : Text) : mark ++ ['='] ∉ [['.'], ['?', '.']] := by
  intro h
  have hlast : ∀ point ∈ [['.'], ['?', '.']], point.getLast? ≠ some '=' := by decide
  exact hlast _ h (by simp)

theorem firstMark_cons_of_pos (h : isPunctuatorOf text mark = true) :
    firstMark (mark :: marks) text = mark.length := by
  rw [firstMark, List.find?_cons_of_pos h]

theorem firstMark_cons_of_neg (h : ¬ isPunctuatorOf text mark = true) :
    firstMark (mark :: marks) text = firstMark marks text := by
  rw [firstMark, List.find?_cons_of_neg h, firstMark]

/-- Looking for a mark with an equals sign before the mark alone is adding the equals sign that is
    behind it. -/
theorem firstMark_equals_cons {rest : Text} (hpoint : mark ∉ [['.'], ['?', '.']]) :
    firstMark ((mark ++ ['=']) :: mark :: marks) (mark ++ rest) =
      mark.length + equalsSign rest := by
  have hlonger := isPunctuatorOf_iff_isPrefix (append_equals_ne_point mark) (mark ++ rest)
  rw [List.prefix_append_right_inj] at hlonger
  fun_cases equalsSign rest with
  | case1 rest =>
    rw [firstMark_cons_of_pos (hlonger.2 ⟨rest, rfl⟩), List.length_append, List.length_singleton]
  | case2 _ hequals =>
    have hstart := (isPunctuatorOf_iff_isPrefix hpoint _).2 (List.prefix_append mark rest)
    rw [firstMark_cons_of_neg, firstMark_cons_of_pos hstart, Nat.add_zero]
    rw [hlonger]
    rintro ⟨more, hmore⟩
    exact hequals more hmore.symm

/-- Adding the equals sign behind a mark is looking for the mark with an equals sign first. -/
theorem firstMark_withEquals (hmarks : ∀ mark ∈ marks, mark ∉ [[], ['.'], ['?', '.']])
    (text : Text) : firstMark (withEquals marks) text =
      match firstMark marks text with
      | n + 1 => n + 1 + equalsSign (text.drop (n + 1))
      | 0 => 0 := by
  induction marks with
  | nil => rfl
  | cons mark marks ih =>
    have hmore := ih fun mark h => hmarks mark (List.mem_cons_of_mem _ h)
    obtain ⟨hne, hpoint⟩ := not_or.1 (mt List.mem_cons.2 (hmarks mark (by simp)))
    have hcons : withEquals (mark :: marks) = (mark ++ ['=']) :: mark :: withEquals marks := rfl
    have hstart := isPunctuatorOf_iff_isPrefix hpoint text
    have hlonger := isPunctuatorOf_iff_isPrefix (append_equals_ne_point mark) text
    by_cases hbegins : mark <+: text
    · rw [hcons, firstMark_cons_of_pos (hstart.2 hbegins)]
      obtain ⟨rest, rfl⟩ := hbegins
      rw [firstMark_equals_cons hpoint]
      obtain ⟨c, more, rfl⟩ := List.exists_cons_of_ne_nil hne
      have hdrop : (c :: more ++ rest).drop (more.length + 1) = rest := List.drop_left
      simp only [List.length_cons, hdrop]
    · have hshorter : mark <+: mark ++ ['='] := List.prefix_append mark ['=']
      rw [hcons, firstMark_cons_of_neg (mt hlonger.1 (mt hshorter.trans hbegins)),
        firstMark_cons_of_neg (mt hstart.1 hbegins), firstMark_cons_of_neg (mt hstart.1 hbegins),
        hmore]

end First

/-! ## The scanner as one table -/

/-- The marks in the order in which the scanner comes to them. -/
def orderedMarks : List Text := earlyMarks ++ (withEquals operators ++ lateMarks)

theorem inOrder_orderedMarks : InOrder orderedMarks := by decide +kernel

theorem mem_orderedMarks_iff {mark : Text} : mark ∈ orderedMarks ↔ mark ∈ punctuators := by
  have hmarks : orderedMarks ⊆ punctuators := by decide +kernel
  have htable : punctuators ⊆ orderedMarks := by decide +kernel
  exact ⟨fun h => hmarks h, fun h => htable h⟩

/-- The early marks, the operators with their equals signs and the late marks are one table, except
    where a comment begins. -/
theorem punctuator_eq_firstMark {text : Text} (hcomment : ¬ BeginsComment text) :
    punctuator text = firstMark orderedMarks text := by
  have hearly : [] ∉ earlyMarks := by decide
  have hoperators : [] ∉ withEquals operators := by decide
  have hmarks : ∀ mark ∈ operators, mark ∉ [[], ['.'], ['?', '.']] := by decide
  have hoperator : operator text = firstMark operators text := by
    fun_cases operator text with
    | case1 rest => exact absurd (.inl ⟨rest, rfl⟩) hcomment
    | case2 rest => exact absurd (.inr ⟨rest, rfl⟩) hcomment
    | case3 => rfl
  rw [orderedMarks, firstMark_append hearly, firstMark_append hoperators,
    firstMark_withEquals hmarks, punctuator, hoperator]
  cases firstMark earlyMarks text with
  | zero =>
    cases firstMark operators text with
    | zero => rfl
    | succ n =>
      dsimp only
      rw [Nat.add_right_comm]
  | succ n => rfl

/-! ## What the scanner finds -/

section Found

variable {text mark : Text}

theorem punctuator_eq_zero_of_comment (h : BeginsComment text) : punctuator text = 0 := by
  obtain ⟨rest, rfl⟩ | ⟨rest, rfl⟩ := h
  · rfl
  · rfl

/-- The mark that the scanner finds counts as a punctuator. -/
theorem countsAsPunctuator_take (h : punctuator text ≠ 0) :
    CountsAsPunctuator text (text.take (punctuator text)) := by
  have hcomment := mt punctuator_eq_zero_of_comment h
  rw [punctuator_eq_firstMark hcomment] at h ⊢
  obtain ⟨mark, hmark, hstart, hlength⟩ := exists_mark_of_firstMark h
  obtain ⟨hbegins, hpoint⟩ := isPunctuatorOf_iff.1 hstart
  rw [← hlength, ← List.prefix_iff_eq_take.1 hbegins]
  exact ⟨mem_orderedMarks_iff.1 hmark, hpoint, hcomment⟩

/-- What is read as a punctuator is one of the table. -/
theorem take_punctuator_mem (h : punctuator text ≠ 0) :
    text.take (punctuator text) ∈ punctuators := (countsAsPunctuator_take h).mem

/-- A text that begins with a punctuator is read as one that is no shorter. -/
theorem CountsAsPunctuator.length_le_punctuator (h : CountsAsPunctuator text mark)
    (hbegins : mark <+: text) : mark.length ≤ punctuator text := by
  rw [punctuator_eq_firstMark h.comment]
  exact length_le_firstMark inOrder_orderedMarks (mem_orderedMarks_iff.2 h.mem)
    (isPunctuatorOf_iff.2 ⟨hbegins, h.point⟩)

end Found

/-- The scanner for punctuators, which takes the first mark that fits and may add an equals sign to
    it, finds the longest beginning of the text that counts as a punctuator, and nothing if there is
    none. -/
theorem punctuator_isLongest (text : Text) :
    IsLongest (CountsAsPunctuator text) text (punctuator text) := by
  refine isLongest_of (fun h => ?_) (punctuator_le text) countsAsPunctuator_take ?_
  · have hempty : [] ∉ punctuators := by decide
    exact hempty h.mem
  · exact fun lexeme rest htext h => h.length_le_punctuator ⟨rest, htext.symm⟩

-- The point belongs to the number behind it, and an equals sign to no update.
example : punctuator ['?', '.', '5'] = 1 ∧ punctuator ['+', '+', '='] = 2 := by decide

end SyntaxColor.Lexeme
