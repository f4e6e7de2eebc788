/-
  What a palette replaces in a source text, whatever its styles do.

  `Restyles`: a text in which some runs are replaced, in order, by what the styles of their
  categories make of them, and everything else is copied.
  `IsStyledRun`: the runs are the longest ones without the end of a line, in the fragments that
  have a style.
  `exists_restyles`: a painted source is the source with exactly these runs replaced.
  `paint_replaces`: so it is for all styles that are put into a palette, the last one for a category
  being its style; and so no style is asked for an empty text, or for one on several lines.
-/
import Mathlib.Data.List.Basic
import SyntaxColor.Proofs.Line
import SyntaxColor.Proofs.Palette

namespace SyntaxColor

open Text

/-! ## Replaced runs -/

/-- A run in a source text: what the source has before it, the category it is in, its text. -/
structure StyledRun where
  before : Text
  category : Category
  text : Text

/-- `Restyles style? before text runs out`: `out` is `text`, which has `before` before it in the
    source, where the runs are replaced by what the styles of their categories make of them, one
    after another, and every other character is copied. -/
inductive Restyles (style? : Category → Option Style) :
    Text → Text → List StyledRun → Text → Prop
  | nil {before : Text} : Restyles style? before [] [] []
  | copy {before rest out : Text} {c : Char} {runs : List StyledRun}
      (h : Restyles style? (before ++ [c]) rest runs out) :
      Restyles style? before (c :: rest) runs (c :: out)
  | replace {before text rest out : Text} {category : Category} {style : Style}
      {runs : List StyledRun} (hstyle : style? category = some style)
      (h : Restyles style? (before ++ text) rest runs out) :
      Restyles style? before (text ++ rest) (⟨before, category, text⟩ :: runs) (style text ++ out)

section Restyles

variable {style? : Category → Option Style} {before text rest out out' : Text}
  {runs runs' : List StyledRun}

theorem Restyles.append (h : Restyles style? before text runs out)
    (h' : Restyles style? (before ++ text) rest runs' out') :
    Restyles style? before (text ++ rest) (runs ++ runs') (out ++ out') := by
  induction h with
  | nil => simpa using h'
  | copy _ ih => exact .copy (ih (by simpa using h'))
  | replace hstyle _ ih =>
    rw [List.append_assoc, List.append_assoc]
    exact .replace hstyle (ih (by simpa using h'))

theorem restyles_copied (before text : Text) : Restyles style? before text [] text := by
  induction text generalizing before with
  | nil => exact .nil
  | cons c text ih => exact .copy (ih _)

end Restyles

/-! ## The runs of a text -/

/-- A run without the end of a line that cannot be made longer to either side. -/
structure IsMaximalRun (before run after : Text) : Prop where
  ne_nil : run ≠ []
  onLine : ∀ c ∈ run, isLineEnd c = false
  start : ∀ c ∈ before.getLast?, isLineEnd c = true
  stop : ∀ c ∈ after.head?, isLineEnd c = true

/-- The run is one of the longest ones in a text that has `before` before it in the source. -/
def StyledRun.IsIn (before text : Text) (run : StyledRun) : Prop :=
  ∃ start stop, run.before = before ++ start ∧ text = start ++ (run.text ++ stop) ∧
    IsMaximalRun start run.text stop

/-- The run is one of the longest ones in a fragment of the source that has a style. -/
def IsStyledRun (style? : Category → Option Style) (source : Text) (run : StyledRun) : Prop :=
  ∃ earlier fragment later, source.fragments = earlier ++ fragment :: later ∧
    (style? fragment.category).isSome ∧ run.category = fragment.category ∧
    run.IsIn (earlier.flatMap Fragment.text) fragment.text

section Runs

variable {before content start run stop after rest lineBreak : Text}

/-- What is on a line goes up to the end of the line. -/
theorem takeWhile_line (hcontent : ∀ c ∈ content, isLineEnd c = false)
    (hafter : ∀ c ∈ after.head?, isLineEnd c = true) :
    (content ++ after).takeWhile (fun c => !isLineEnd c) = content := by
  rw [List.takeWhile_append_of_pos fun c hc => by simp [hcontent c hc]]
  cases after with
  | nil => simp
  | cons c after => simp [hafter c rfl]

/-- A longest run that begins on the first line is that line. -/
theorem IsMaximalRun.eq_content (h : IsMaximalRun start run stop)
    (hcontent : ∀ c ∈ content, isLineEnd c = false)
    (hafter : ∀ c ∈ after.head?, isLineEnd c = true)
    (htext : start ++ (run ++ stop) = content ++ after) :
    start = [] ∧ run = content ∨
      ∃ more, start = content ++ more ∧ more ≠ [] ∧ after = more ++ (run ++ stop) := by
  have hstart {more : Text} (hsplit : content = start ++ more) : start = [] := by
    refine List.getLast?_eq_none_iff.1 (Option.eq_none_iff_forall_not_mem.2 fun c hc => ?_)
    have hmem : c ∈ content := by
      rw [hsplit]
      exact List.mem_append_left _ (List.mem_of_getLast? hc)
    simpa [hcontent c hmem] using h.start c hc
  obtain ⟨more, hsplit, hmore⟩ | ⟨more, rfl, hmore⟩ := List.append_eq_append_iff.1 htext
  · have hnil := hstart hsplit
    subst hnil
    refine .inl ⟨rfl, ?_⟩
    rw [← takeWhile_line h.onLine h.stop, ← takeWhile_line hcontent hafter]
    exact congrArg _ htext
  · by_cases hnil : more = []
    · -- The run begins at the end of the line, where it has no first character.
      subst hnil
      obtain ⟨c, run, rfl⟩ := List.exists_cons_of_ne_nil h.ne_nil
      have hend := hafter c (by rw [hmore]; rfl)
      simp [h.onLine c List.mem_cons_self] at hend
    · exact .inr ⟨more, rfl, hnil, hmore⟩

/-- A longest run behind the first line is one of the text behind the line break. -/
theorem IsMaximalRun.of_lineBreak (h : IsMaximalRun start run stop)
    (hbreak : ∀ c ∈ lineBreak, isLineEnd c = true) (hstart : start ≠ [])
    (htext : lineBreak ++ rest = start ++ (run ++ stop)) :
    ∃ more, start = lineBreak ++ more ∧ rest = more ++ (run ++ stop) := by
  obtain ⟨more, rfl, hmore⟩ | ⟨more, rfl, hmore⟩ := List.append_eq_append_iff.1 htext
  · exact ⟨more, rfl, hmore⟩
  · cases more with
    | nil => exact ⟨[], by simp, by simpa using hmore.symm⟩
    | cons c more =>
      obtain ⟨d, run, rfl⟩ := List.exists_cons_of_ne_nil h.ne_nil
      obtain rfl : d = c := (List.cons.inj hmore).1
      have hend := hbreak d (by simp)
      simp [h.onLine d List.mem_cons_self] at hend

/-- A longest run stays one where a line break stands right before the text. -/
theorem IsMaximalRun.behind (h : IsMaximalRun start run stop)
    (hbefore : ∀ c ∈ before.getLast?, isLineEnd c = true) :
    IsMaximalRun (before ++ start) run stop := by
  refine ⟨h.ne_nil, h.onLine, fun c hc => ?_, h.stop⟩
  cases start with
  | nil => exact hbefore c (by simpa using hc)
  | cons d start => exact h.start c (by simpa [List.getLast?_append] using hc)

theorem IsMaximalRun.of_behind (h : IsMaximalRun (before ++ start) run stop) :
    IsMaximalRun start run stop := by
  refine ⟨h.ne_nil, h.onLine, fun c hc => h.start c ?_, h.stop⟩
  rw [Option.mem_def] at hc
  simp [List.getLast?_append, hc]

variable {styled : StyledRun}

/-- On one line the longest run is the line, if there is anything on it. -/
theorem isIn_content_iff (hcontent : ∀ c ∈ content, isLineEnd c = false) :
    styled.IsIn before content ↔
      content ≠ [] ∧ styled.before = before ∧ styled.text = content := by
  constructor
  · rintro ⟨start, stop, hbefore, htext, hrun⟩
    have hsplit : start ++ (styled.text ++ stop) = content ++ [] := by simpa using htext.symm
    obtain ⟨rfl, hcontent⟩ | ⟨more, -, hmore, hnil⟩ :=
      hrun.eq_content hcontent (by simp) hsplit
    · exact ⟨hcontent ▸ hrun.ne_nil, by simpa using hbefore, hcontent⟩
    · exact absurd (List.append_eq_nil_iff.1 hnil.symm).1 hmore
  · rintro ⟨hne, rfl, rfl⟩
    exact ⟨[], [], by simp, by simp, hne, hcontent, by simp, by simp⟩

/-- Of more lines the longest runs are the first one, if there is anything on it, and those of the
    text behind its line break. -/
theorem isIn_lineBreak_iff (hcontent : ∀ c ∈ content, isLineEnd c = false)
    (hbreak : IsLineBreak lineBreak rest) :
    styled.IsIn before (content ++ (lineBreak ++ rest)) ↔
      (content ≠ [] ∧ styled.before = before ∧ styled.text = content) ∨
        styled.IsIn (before ++ (content ++ lineBreak)) rest := by
  have hends := hbreak.isLineEnd
  obtain ⟨c, more, rfl⟩ := List.exists_cons_of_length_pos hbreak.length_pos
  have hafter : ∀ d ∈ (c :: more ++ rest).head?, isLineEnd d = true := by
    simpa using hends c List.mem_cons_self
  constructor
  · rintro ⟨start, stop, hbefore, htext, hrun⟩
    obtain ⟨rfl, heq⟩ | ⟨behind, rfl, hne, hbehind⟩ :=
      hrun.eq_content hcontent hafter htext.symm
    · exact .inl ⟨heq ▸ hrun.ne_nil, by simpa using hbefore, heq⟩
    · obtain ⟨start, rfl, hrest⟩ := hrun.of_behind.of_lineBreak hends hne hbehind
      refine .inr ⟨start, stop, by simpa using hbefore, hrest, ?_⟩
      exact hrun.of_behind.of_behind
  · rintro (⟨hne, rfl, rfl⟩ | ⟨start, stop, hbefore, rfl, hrun⟩)
    · exact ⟨[], c :: more ++ rest, by simp, by simp, hne, hcontent, by simp, hafter⟩
    · have hlast : (content ++ c :: more).getLast? = (c :: more).getLast? := by
        simp [List.getLast?_append, List.getLast?_cons]
      refine ⟨content ++ (c :: more) ++ start, stop, by simpa using hbefore, by simp, ?_⟩
      exact hrun.behind fun d hd => hends d (List.mem_of_getLast? (hlast ▸ hd))

end Runs

/-! ## Painted texts -/

section Painted

variable {style? : Category → Option Style} {category : Category} {style : Style}

/-- One line in a style is the line replaced, if there is anything on it. -/
theorem exists_restyles_content (hstyle : style? category = some style) (before content : Text) :
    ∃ runs, Restyles style? before content runs (if content = [] then [] else style content) ∧
      ∀ run : StyledRun, run ∈ runs ↔
        run.category = category ∧ content ≠ [] ∧ run.before = before ∧ run.text = content := by
  by_cases hnil : content = []
  · subst hnil
    exact ⟨[], .nil, by simp⟩
  · refine ⟨[⟨before, category, content⟩], ?_, ?_⟩
    · have hreplaced : Restyles style? before (content ++ []) [⟨before, category, content⟩]
          (style content ++ []) := .replace hstyle .nil
      simpa [hnil] using hreplaced
    · rintro ⟨start, other, text⟩
      simp [hnil, and_left_comm]

/-- A style that is put on each line replaces the longest runs of the text. -/
theorem exists_restyles_lines (hstyle : style? category = some style) (before text : Text) :
    ∃ runs, Restyles style? before text runs (text.lines.flatMap (Line.paint style)) ∧
      ∀ run : StyledRun, run ∈ runs ↔ run.category = category ∧ run.IsIn before text := by
  induction text using lines_induction generalizing before with
  | last content hcontent hlines =>
    obtain ⟨runs, hpaint, hruns⟩ := exists_restyles_content hstyle before content
    refine ⟨runs, ?_, fun run => by rw [hruns, isIn_content_iff hcontent]⟩
    rw [hlines]
    simpa [Line.paint] using hpaint
  | line content lineBreak rest hcontent hbreak hlines ih =>
    obtain ⟨runs, hpaint, hruns⟩ := exists_restyles_content hstyle before content
    obtain ⟨more, hmore, hmores⟩ := ih (before ++ (content ++ lineBreak))
    have hbehind : Restyles style? (before ++ content) (lineBreak ++ rest) more
        (lineBreak ++ rest.lines.flatMap (Line.paint style)) :=
      (restyles_copied (before ++ content) lineBreak).append (by simpa using hmore)
    refine ⟨runs ++ more, ?_, fun run => ?_⟩
    · rw [hlines, List.flatMap_cons, Line.paint, List.append_assoc]
      exact hpaint.append hbehind
    · rw [List.mem_append, hruns, hmores, isIn_lineBreak_iff hcontent hbreak, and_or_left]

/-- What a palette makes of a fragment is the fragment with its longest runs replaced, if it has a
    style. -/
theorem exists_restyles_fragment (palette : Palette) (before : Text) (fragment : Fragment) :
    ∃ runs, Restyles palette.style? before fragment.text runs (fragment.paint palette) ∧
      ∀ run : StyledRun, run ∈ runs ↔ (palette.style? fragment.category).isSome ∧
        run.category = fragment.category ∧ run.IsIn before fragment.text := by
  unfold Fragment.paint
  split
  · next hnone => exact ⟨[], restyles_copied before fragment.text, by simp [hnone]⟩
  · next style hstyle =>
    obtain ⟨runs, hpaint, hruns⟩ := exists_restyles_lines hstyle before fragment.text
    exact ⟨runs, hpaint, by simpa [hstyle] using hruns⟩

/-- What a palette makes of fragments is their text with the longest runs of each replaced. -/
theorem exists_restyles_fragments (palette : Palette) (before : Text) (fragments : List Fragment) :
    ∃ runs, Restyles palette.style? before (fragments.flatMap Fragment.text) runs
        (fragments.flatMap (Fragment.paint palette)) ∧
      ∀ run : StyledRun, run ∈ runs ↔ ∃ earlier fragment later,
        fragments = earlier ++ fragment :: later ∧ (palette.style? fragment.category).isSome ∧
          run.category = fragment.category ∧
          run.IsIn (before ++ earlier.flatMap Fragment.text) fragment.text := by
  induction fragments generalizing before with
  | nil => exact ⟨[], .nil, by simp⟩
  | cons fragment fragments ih =>
    obtain ⟨runs, hpaint, hruns⟩ := exists_restyles_fragment palette before fragment
    obtain ⟨more, hmore, hmores⟩ := ih (before ++ fragment.text)
    refine ⟨runs ++ more, hpaint.append hmore, fun run => ?_⟩
    rw [List.mem_append, hruns, hmores]
    constructor
    · rintro (hfirst | ⟨earlier, other, later, rfl, hlater⟩)
      · exact ⟨[], fragment, fragments, rfl, by simpa using hfirst⟩
      · exact ⟨fragment :: earlier, other, later, rfl, by simpa using hlater⟩
    · rintro ⟨earlier, other, later, hsplit, hrun⟩
      obtain ⟨rfl, hcons⟩ | ⟨earlier, rfl, rfl⟩ := List.cons_eq_append_iff.1 hsplit
      · obtain ⟨rfl, -⟩ := List.cons.inj hcons
        exact .inl (by simpa using hrun)
      · exact .inr ⟨earlier, other, later, rfl, by simpa using hrun⟩

/-- A painted source is the source with the longest runs of its styled fragments replaced. -/
theorem exists_restyles (palette : Palette) (source : Text) :
    ∃ runs, Restyles palette.style? [] source runs (palette.paint source) ∧
      ∀ run, run ∈ runs ↔ IsStyledRun palette.style? source run := by
  obtain ⟨runs, hpaint, hruns⟩ := exists_restyles_fragments palette [] source.fragments
  rw [flatMap_fragments] at hpaint
  exact ⟨runs, hpaint, hruns⟩

/-- A style is put on something, and on one line. -/
theorem IsStyledRun.onLine {source : Text} {run : StyledRun} (h : IsStyledRun style? source run) :
    run.text ≠ [] ∧ ∀ c ∈ run.text, isLineEnd c = false := by
  obtain ⟨-, -, -, -, -, -, start, stop, -, -, hrun⟩ := h
  exact ⟨hrun.ne_nil, hrun.onLine⟩

/-- Two styles make the same of each line that there is something on. -/
def AgreesOnLines (style other : Style) : Prop :=
  ∀ content, content ≠ [] → (∀ c ∈ content, isLineEnd c = false) → style content = other content

theorem flatMap_paint_congr {style other : Style} (h : AgreesOnLines style other) (text : Text) :
    text.lines.flatMap (Line.paint style) = text.lines.flatMap (Line.paint other) := by
  refine List.flatMap_congr fun line hline => ?_
  unfold Line.paint
  split
  · rfl
  · next hne => rw [h line.content hne (isLineEnd_of_mem_content hline)]

/-- Palettes whose styles agree on lines make the same of a source: no style is asked for
    anything else. -/
theorem paint_congr {palette other : Palette}
    (h : ∀ category, Option.Rel AgreesOnLines (palette.style? category) (other.style? category))
    (source : Text) : palette.paint source = other.paint source := by
  refine List.flatMap_congr fun fragment _ => ?_
  unfold Fragment.paint
  have hstyles := h fragment.category
  generalize palette.style? fragment.category = style at hstyles
  generalize other.style? fragment.category = otherStyle at hstyles
  cases hstyles with
  | none => rfl
  | some hagrees => exact flatMap_paint_congr hagrees fragment.text

end Painted

/-! ## Styles that are put into a palette -/

/-- The style that is given last for a category; uncolored text has none. -/
def lastStyle? (styles : List (Category × Style)) (category : Category) : Option Style :=
  if category = .uncolored then none else styles.reverse.lookup category

section Given

variable {category : Category}

theorem style?_insert (hcategory : category ≠ .uncolored) (palette : Palette)
    (entry : Category × Style) :
    (palette.insert entry.1 entry.2).style? category =
      if category = entry.1 then some entry.2 else palette.style? category := by
  unfold Palette.insert
  split
  · next huncolored => rw [if_neg (huncolored ▸ hcategory)]
  · rfl

theorem style?_insertMany (hcategory : category ≠ .uncolored) (palette : Palette)
    (styles : List (Category × Style)) :
    (palette.insertMany styles).style? category =
      (styles.reverse.lookup category).or (palette.style? category) := by
  unfold Palette.insertMany
  induction styles generalizing palette with
  | nil => rfl
  | cons entry styles ih =>
    obtain ⟨given, style⟩ := entry
    rw [List.foldl_cons, ih, style?_insert hcategory, List.reverse_cons, List.lookup_append,
      Option.or_assoc]
    congr 1
    by_cases hgiven : category = given
    · simp [hgiven]
    · rw [if_neg hgiven, List.lookup_cons, beq_false_of_ne hgiven]
      simp

/-- In a palette a category has the style that is given last for it. -/
theorem style?_eq_lastStyle? (styles : List (Category × Style)) :
    (Palette.empty.insertMany styles).style? = lastStyle? styles := by
  funext category
  unfold lastStyle?
  split
  · next huncolored => rw [huncolored, Palette.style?_uncolored]
  · next hcategory => rw [style?_insertMany hcategory]; exact Option.or_none

end Given

/-! ## Every palette -/

/-- A painted source is the source in which the longest runs without the end of a line, in the
    fragments that have a style, are replaced by what the style given last for the category makes of
    them, and everything else is copied.  So a style is put on something, and on one line; what the
    styles make of other texts does not matter; and where they leave every text as it is the source
    is left as it is, as it is without styles. -/
theorem paint_replaces (styles : List (Category × Style)) (source : Text) :
    (∃ runs, Restyles (lastStyle? styles) [] source runs
        ((Palette.empty.insertMany styles).paint source) ∧
      ∀ run, run ∈ runs ↔ IsStyledRun (lastStyle? styles) source run) ∧
    (∀ run, IsStyledRun (lastStyle? styles) source run →
      run.text ≠ [] ∧ ∀ c ∈ run.text, isLineEnd c = false) ∧
    (∀ others : List (Category × Style),
      (∀ category, Option.Rel AgreesOnLines (lastStyle? styles category)
        (lastStyle? others category)) →
      (Palette.empty.insertMany styles).paint source =
        (Palette.empty.insertMany others).paint source) ∧
    ((∀ category style, lastStyle? styles category = some style → ∀ text, style text = text) →
      (Palette.empty.insertMany styles).paint source = source) ∧
    Palette.empty.paint source = source := by
  refine ⟨?_, fun run => IsStyledRun.onLine, fun others hagrees => ?_, fun hsame => ?_, ?_⟩
  · rw [← style?_eq_lastStyle?]
    exact exists_restyles _ source
  · simp only [← style?_eq_lastStyle?] at hagrees
    exact paint_congr hagrees source
  · rw [← style?_eq_lastStyle?] at hsame
    exact paint_eq_self hsame source
  · exact paint_eq_self (by rintro category style ⟨⟩) source

/-- A comment on two lines, with two styles given for comments: the last one is put on each of its
    lines, so that it may be one that leaves an empty text as it is. -/
theorem paint_replaces_comment :
    (Palette.empty.insertMany [(.comment, fun _ => []), (.comment, List.cons '#')]).paint
        ['/', '*', '\r', '\n', '*', '/'] = ['#', '/', '*', '\r', '\n', '#', '*', '/'] ∧
      IsStyledRun (lastStyle? [(.comment, fun _ => []), (.comment, List.cons '#')])
        ['/', '*', '\r', '\n', '*', '/'] ⟨['/', '*', '\r', '\n'], .comment, ['*', '/']⟩ ∧
      (∀ c ∈ ['*', '/'], isLineEnd c = false) ∧
      (Palette.empty.insertMany [(.comment, fun _ => []), (.comment, List.cons '#')]).paint
          ['/', '*', '\r', '\n', '*', '/'] =
        (Palette.empty.insertMany
            [(.comment, fun text => if text = [] then [] else '#' :: text)]).paint
          ['/', '*', '\r', '\n', '*', '/'] ∧
      (Palette.empty.insertMany [(.comment, id)]).paint ['/', '*', '\r', '\n', '*', '/'] =
        ['/', '*', '\r', '\n', '*', '/'] := by
  have hagrees : AgreesOnLines (List.cons '#')
      fun text => if text = [] then [] else '#' :: text := by
    intro content hne _
    simp [hne]
  have hrun : IsStyledRun (lastStyle? [(.comment, fun _ => []), (.comment, List.cons '#')])
      ['/', '*', '\r', '\n', '*', '/'] ⟨['/', '*', '\r', '\n'], .comment, ['*', '/']⟩ := by
    refine ⟨[], ⟨.comment, ['/', '*', '\r', '\n', '*', '/']⟩, [], by decide +kernel, rfl, rfl,
      ['/', '*', '\r', '\n'], [], rfl, rfl, ?_⟩
    exact ⟨by simp, by simp [isLineEnd], by simp [isLineEnd], by simp⟩
  obtain ⟨-, honLine, hsame, -⟩ := paint_replaces
    [(.comment, fun _ => []), (.comment, List.cons '#')] ['/', '*', '\r', '\n', '*', '/']
  obtain ⟨-, -, -, hself, -⟩ :=
    paint_replaces [(.comment, id)] ['/', '*', '\r', '\n', '*', '/']
  refine ⟨by decide +kernel, hrun, (honLine _ hrun).2, hsame _ fun category => ?_,
    hself fun category style hstyle text => ?_⟩
  · cases category with
    | comment => exact .some hagrees
    | _ => exact .none
  · cases category with
    | comment => obtain rfl := Option.some.inj hstyle; rfl
    | _ => cases hstyle

end SyntaxColor
