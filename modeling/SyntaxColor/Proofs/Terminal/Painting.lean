/-
  Sources painted with the colors of a terminal.

  `decorates_paint`: a painted fragment is the fragment, decorated with escape sequences.  A style
  is put on each of its lines, and a line has no line break for the style to go across.
  `paint_terminal`: so the sequences of the painted source can be taken away again, its lines are
  those of the source, and no style goes on from one line to the next.
-/
import SyntaxColor.Proofs.Terminal.Decoration

namespace SyntaxColor.Terminal

open Text

/-! ## Lines in a style -/

/-- Whether a sequence or a line break begins at none of the characters. -/
def IsPlain (content : Text) : Prop := ∀ c ∈ content, c ≠ '\x1b' ∧ isLineEnd c = false

/-- What a style makes of the content of a line decorates it. -/
def DecoratesContent (style : Style) : Prop :=
  ∀ {content out text : Text}, IsPlain content → Decorates false out text →
    Decorates false (style content ++ out) (content ++ text)

section Styles

variable {style : Style} {out text content : Text}

theorem Decorates.plain {shown : Bool} (hplain : IsPlain content) (h : Decorates shown out text) :
    Decorates shown (content ++ out) (content ++ text) := by
  induction content with
  | nil => exact h
  | cons c content ih =>
    obtain ⟨⟨hescape, hline⟩, hmore⟩ := List.forall_mem_cons.1 hplain
    exact .char hescape hline (ih hmore)

/-- Where nothing is turned off nothing is turned on again. -/
theorem reopen_eq_self (opening : Text) (h : '\x1b' ∉ text) : reopen opening text = text := by
  fun_induction reopen opening text with
  | case1 => simp at h
  | case2 c rest _ ih => rw [ih fun hmem => h (List.mem_cons_of_mem c hmem)]
  | case3 => rfl

theorem decoratesContent_id : DecoratesContent id := fun hplain h => h.plain hplain

theorem decoratesContent_shown {parameters : String} (h : select parameters ∈ openings) :
    DecoratesContent (shown parameters) := by
  intro content out text hplain hmore
  have hescape : '\x1b' ∉ content := fun hmem => (hplain _ hmem).1 rfl
  rw [shown, reopen_eq_self _ hescape, List.append_assoc, List.append_assoc]
  exact .select h (.plain hplain (.reset hmore))

theorem DecoratesContent.line (hstyle : DecoratesContent style) (hplain : IsPlain content)
    (lineBreak : Text) (h : Decorates false (lineBreak ++ out) (lineBreak ++ text)) :
    Decorates false (Line.paint style ⟨content, lineBreak⟩ ++ out)
      (content ++ (lineBreak ++ text)) := by
  rw [Line.paint, List.append_assoc]
  cases content with
  | nil => exact h
  | cons => exact hstyle hplain h

theorem isPlain_of_not_mem (hescape : '\x1b' ∉ text) (hcontent : ∀ c ∈ content, c ∈ text)
    (hline : ∀ c ∈ content, isLineEnd c = false) : IsPlain content :=
  fun c hc => ⟨fun heq => hescape (heq ▸ hcontent c hc), hline c hc⟩

/-- A style that is put on each line decorates the text. -/
theorem DecoratesContent.lines (hstyle : DecoratesContent style) (hescape : '\x1b' ∉ text) :
    Decorates false (text.lines.flatMap (Line.paint style)) text := by
  induction text using lines_induction with
  | last content hcontent hlines =>
    have hplain := isPlain_of_not_mem hescape (fun _ => id) hcontent
    rw [hlines]
    simpa using hstyle.line hplain [] .nil
  | line content lineBreak rest hcontent hbreak hlines ih =>
    have hplain := isPlain_of_not_mem hescape (fun c hc => by simp [hc]) hcontent
    have hmore := ih fun hmem => hescape (by simp [hmem])
    rw [hlines]
    exact hstyle.line hplain lineBreak (.lineBreak hbreak hmore)

end Styles

/-! ## Painted sources -/

/-- The style of a category begins with one of the sequences that turn a style on. -/
theorem select_mem_openings {category : Category} {parameters : String}
    (h : parameters? category = some parameters) : select parameters ∈ openings := by
  refine List.mem_filterMap.2 ⟨category, ?_, by rw [h]; rfl⟩
  cases category with
  | uncolored => cases h
  | _ => decide

/-- A painted fragment is the fragment, decorated. -/
theorem decorates_paint {fragment : Fragment} (hescape : '\x1b' ∉ fragment.text) :
    Decorates false (fragment.paint (palette true)) fragment.text := by
  unfold Fragment.paint
  split
  · simpa [flatMap_paint_lines] using DecoratesContent.lines decoratesContent_id hescape
  · next style hstyle =>
    obtain ⟨parameters, hparameters, rfl⟩ := Option.map_eq_some_iff.1 hstyle
    exact DecoratesContent.lines (decoratesContent_shown (select_mem_openings hparameters)) hescape

/-- Whoever takes the escape sequences out of a painted source gets the source.  The painted source
    has the line breaks of the source, a carriage return with its line feed being one, and its lines
    are those of the source when the sequences are taken out of them.  On every line a style is
    turned on and turned off in turns, so that none is on at a line break or at the end. -/
theorem paint_terminal {source : Text} (hescape : '\x1b' ∉ source) :
    withoutSequences false ((palette true).paint source) = source ∧
      ((palette true).paint source).lines.map Line.lineBreak = source.lines.map Line.lineBreak ∧
      (((palette true).paint source).lines.map fun line => withoutSequences false line.content) =
        source.lines.map Line.content ∧
      ∀ line ∈ ((palette true).paint source).lines,
        alternates false (sequences [] line.content) = true := by
  have hpaint : Decorates false ((palette true).paint source) source :=
    paint_rel Decorates.composes (palette true) fun fragment hmem =>
      decorates_paint fun hc => hescape (mem_of_mem_fragments hmem hc)
  have hlines := hpaint.lines
  exact ⟨hpaint.withoutSequences_eq, hlines.map_lineBreak, hlines.map_content, hlines.alternates⟩

/-- A comment on two lines: it is grey on each of them, and the line break stands between. -/
theorem paint_terminal_comment :
    '\x1b' ∉ ['/', '*', '\r', '\n', '*', '/'] ∧
      (palette true).paint ['/', '*', '\r', '\n', '*', '/'] =
        shown "90" ['/', '*'] ++ ['\r', '\n'] ++ shown "90" ['*', '/'] ∧
      withoutSequences false ((palette true).paint ['/', '*', '\r', '\n', '*', '/']) =
        ['/', '*', '\r', '\n', '*', '/'] ∧
      ((palette true).paint ['/', '*', '\r', '\n', '*', '/']).lines.map Line.lineBreak =
        [['\r', '\n'], []] := by
  have hescape : '\x1b' ∉ ['/', '*', '\r', '\n', '*', '/'] := by decide
  obtain ⟨hsource, hbreaks, -⟩ := paint_terminal hescape
  refine ⟨hescape, by decide +kernel, hsource, ?_⟩
  rw [hbreaks]
  decide

end SyntaxColor.Terminal
