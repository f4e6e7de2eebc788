/-
  What a palette makes of a text.

  `paint_rel`: to know how the painted text as a whole relates to the source it is enough to know
  it of each fragment, if the relation is kept where texts are put together; it may rely on no line
  break being cut there.
  `paint_eq_self`: a palette whose styles leave every text as it is leaves the source as it is.
-/
import SyntaxColor.Palette
import SyntaxColor.Proofs.Fragment
import SyntaxColor.Proofs.Token.Seam

namespace SyntaxColor

/-- A relation between what is made of texts and the texts, which is kept where texts are put
    together without a line break that goes on from one to the other. -/
structure Composes (R : Text → Text → Prop) : Prop where
  nil : R [] []
  append {out out' text text' : Text} (h : R out text) (h' : R out' text')
    (hseam : ¬ CutsLineBreak text text') : R (out ++ out') (text ++ text')

section Paint

variable {R : Text → Text → Prop} {palette : Palette}

/-- The mark behind a piece of a template literal goes on with no line break. -/
theorem Composes.holeOpening (hR : Composes R) {out body : Text} (h : R out body)
    (hmark : R (Fragment.holeOpening.paint palette) Fragment.holeOpening.text) :
    R (out ++ Fragment.holeOpening.paint palette) (body ++ ['$', '{']) :=
  hR.append h hmark (not_cutsLineBreak_of_head? rfl (by decide) body)

/-- The mark before a piece of a template literal begins no line break. -/
theorem Composes.holeClosing (hR : Composes R) {out body : Text} (h : R out body)
    (hmark : R (Fragment.holeClosing.paint palette) Fragment.holeClosing.text) :
    R (Fragment.holeClosing.paint palette ++ out) ('}' :: body) := by
  refine hR.append hmark h ?_
  rintro ⟨hreturn, -⟩
  cases hreturn

/-- A token is painted fragment by fragment. -/
theorem Composes.token (hR : Composes R) {token : Token} (hmarks : token.CutAtMarks)
    (hfragment : ∀ fragment ∈ token.fragments, R (fragment.paint palette) fragment.text) :
    R (token.fragments.flatMap (Fragment.paint palette)) token.text := by
  obtain ⟨kind, text⟩ := token
  cases kind with
  | templateHead =>
    obtain ⟨body, rfl, hfragments⟩ := hmarks
    rw [hfragments] at hfragment ⊢
    simpa using hR.holeOpening (hfragment ⟨.string, body⟩ (by simp)) (hfragment _ (by simp))
  | templateMiddle =>
    obtain ⟨body, rfl, hfragments⟩ := hmarks
    rw [hfragments] at hfragment ⊢
    have hopening :=
      hR.holeOpening (hfragment ⟨.string, body⟩ (by simp)) (hfragment .holeOpening (by simp))
    simpa using hR.holeClosing hopening (hfragment _ (by simp))
  | templateTail =>
    obtain ⟨body, rfl, hfragments⟩ := hmarks
    rw [hfragments] at hfragment ⊢
    simpa using hR.holeClosing (hfragment ⟨.string, body⟩ (by simp)) (hfragment _ (by simp))
  | _ => simpa [Token.fragments] using hfragment _ (List.mem_singleton_self _)

/-- What was read so far is painted token by token. -/
theorem Composes.reached (hR : Composes R) {jsx : Bool} {text rest : Text} {seen : List Entry}
    {s : Context} (h : Reached jsx text seen s rest)
    (htoken : ∀ entry ∈ seen, R (entry.1.fragments.flatMap (Fragment.paint palette)) entry.1.text) :
    R (seen.flatMap fun entry => entry.1.fragments.flatMap (Fragment.paint palette))
      (seen.flatMap (·.1.text)) := by
  induction h with
  | start => exact hR.nil
  | hashbang => simpa using htoken _ (List.mem_singleton_self _)
  | @step seen s rest hseen hrest _ ih =>
    have hlast := htoken ((s.step jsx rest).entry rest) (by simp)
    have hbefore := ih fun entry hentry => htoken entry (List.mem_append_left _ hentry)
    rw [List.flatMap_append, List.flatMap_append, List.flatMap_singleton, List.flatMap_singleton]
    refine hR.append hbefore hlast fun hcut => hseen.keepsLineBreaks ⟨hcut.1, ?_⟩
    -- The token is the beginning of what was left to read.
    obtain ⟨more, hmore⟩ := List.head?_eq_some_iff.1 hcut.2
    rw [← List.take_append_drop (s.step jsx rest).length rest]
    rw [show rest.take (s.step jsx rest).length = '\n' :: more from hmore]
    rfl

/-- How a painted source relates to the source is told by its fragments. -/
theorem paint_rel (hR : Composes R) (palette : Palette) {source : Text}
    (hfragment : ∀ fragment ∈ source.fragments, R (fragment.paint palette) fragment.text) :
    R (palette.paint source) source := by
  obtain ⟨s, hreached⟩ := reached_trace true source
  have hpaint : palette.paint source = (source.trace true).flatMap fun entry =>
      entry.1.fragments.flatMap (Fragment.paint palette) := by
    rw [Palette.paint, Text.fragments, Text.tokens, List.flatMap_map, List.flatMap_assoc]
  have hsource : source = (source.trace true).flatMap (·.1.text) := by
    simpa using hreached.text_eq
  rw [hpaint]
  conv => rhs; rw [hsource]
  refine hR.reached hreached fun entry hentry => ?_
  have htoken : entry.1 ∈ source.tokens true := List.mem_map_of_mem hentry
  refine hR.token (tokens_cutAtMarks true source entry.1 htoken) fun fragment hmem => ?_
  exact hfragment fragment (List.mem_flatMap.2 ⟨entry.1, htoken, hmem⟩)

/-! ## Styles that change nothing -/

theorem composes_eq : Composes Eq := ⟨rfl, fun h h' _ => by rw [h, h']⟩

theorem Text.Line.paint_eq_toText {style : Style} {line : Text.Line}
    (h : style line.content = line.content) : line.paint style = line.toText := by
  unfold Text.Line.paint Text.Line.toText
  split
  · next hempty => rw [hempty]
  · rw [h]

/-- A style that leaves every text as it is leaves the lines as they are. -/
theorem Text.flatMap_paint_lines {style : Style} (h : ∀ text, style text = text) (text : Text) :
    text.lines.flatMap (Text.Line.paint style) = text := by
  have hlines : ∀ line ∈ text.lines, line.paint style = line.toText :=
    fun line _ => Text.Line.paint_eq_toText (h line.content)
  rw [List.flatMap_def, List.map_congr_left hlines, ← List.flatMap_def]
  exact Text.flatMap_toText_lines text

/-- A palette whose styles leave every text as it is leaves the source as it is. -/
theorem paint_eq_self {palette : Palette} (h : ∀ category style,
    palette.style? category = some style → ∀ text, style text = text) (source : Text) :
    palette.paint source = source := by
  refine paint_rel composes_eq palette fun fragment _ => ?_
  unfold Fragment.paint
  split
  · rfl
  · next style hstyle => exact Text.flatMap_paint_lines (h _ style hstyle) fragment.text

end Paint

end SyntaxColor
