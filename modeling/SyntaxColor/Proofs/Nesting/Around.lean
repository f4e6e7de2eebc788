/-
  What a context remembers of the nesting around it, and what of that each bracket changes.

  `nesting_leave`: to leave a region gives back the nesting from which it was entered.
  `InScript`: in script, no bracket that was opened before the region is taken for one inside it.
-/
import SyntaxColor.Token.Rule.Jsx

namespace SyntaxColor.Context

variable {s s' outer : Context} {region : Region}

/-- The regions, the open braces and the depth of parentheses around a context. -/
def nesting (s : Context) : List Region × List Bool × Int :=
  (s.regions, s.openBraces, s.parenDepth)

/-! ## Landmarks and operands -/

@[simp] theorem nesting_seen (s : Context) (last : Landmark) :
    (s.seen last).nesting = s.nesting := rfl

@[simp] theorem nesting_withOperand (s : Context) (operandBefore : Bool) :
    (s.withOperand operandBefore).nesting = s.nesting := rfl

@[simp] theorem nesting_afterOperand (s : Context) (text : Text) :
    (s.afterOperand text).nesting = s.nesting := rfl

@[simp] theorem nesting_afterOperator (s : Context) (text : Text) :
    (s.afterOperator text).nesting = s.nesting := rfl

@[simp] theorem openBraces_leave (s : Context) : s.leave.openBraces = s.openBraces := by
  unfold leave
  split <;> rfl

@[simp] theorem parenDepth_leave (s : Context) : s.leave.parenDepth = s.parenDepth := by
  unfold leave
  split <;> rfl

theorem regions_leave_congr (h : s.regions = s'.regions) : s.leave.regions = s'.leave.regions := by
  simp only [leave, h]
  split
  · rfl
  · exact h

/-! ## Contexts of the same nesting -/

theorem nesting_eq_iff : s.nesting = s'.nesting ↔
    s.regions = s'.regions ∧ s.openBraces = s'.openBraces ∧ s.parenDepth = s'.parenDepth := by
  simp [nesting]

theorem region_eq_of_nesting (h : s.nesting = s'.nesting) : s.region = s'.region := by
  rw [region, region, (nesting_eq_iff.1 h).1]

theorem nesting_enter (h : s.nesting = s'.nesting) (region : Region) :
    (s.enter region).nesting = (s'.enter region).nesting := by
  obtain ⟨hregions, hbraces, hdepth⟩ := nesting_eq_iff.1 h
  simp [nesting, enter, hregions, hbraces, hdepth]

theorem nesting_leave (houter : outer.regions ≠ [])
    (h : s.nesting = (outer.enter region).nesting) : s.leave.nesting = outer.nesting := by
  obtain ⟨hregions, hbraces, hdepth⟩ := nesting_eq_iff.1 h
  obtain ⟨region', more, houter⟩ := List.exists_cons_of_ne_nil houter
  replace hregions : s.regions = region :: region' :: more := by rw [hregions, enter, houter]
  refine nesting_eq_iff.2 ⟨?_, ?_, ?_⟩
  · simp [leave, hregions, houter]
  · simpa [leave, hregions, enter] using hbraces
  · simpa [leave, hregions, enter] using hdepth

theorem regions_ne_nil_of_isJsx (h : s.region.isJsx = true) : s.regions ≠ [] := by
  intro hnil
  simp [region, hnil, Region.isJsx] at h

/-- The slash of a closing tag takes the tag out of the children that it ends. -/
theorem nesting_slashInTag (houter : outer.regions ≠ [])
    (h : s.nesting = (outer.enter .jsxChildren).nesting) :
    s.openTag.slashInTag.nesting = (outer.enter .jsxClosingTag).nesting := by
  have hregion : s.region = .jsxChildren := region_eq_of_nesting h
  have hleave : s.openTag.leave.nesting = s.nesting :=
    nesting_leave (regions_ne_nil_of_isJsx (by rw [hregion]; rfl)) rfl
  have hchildren : s.openTag.leave.region = .jsxChildren :=
    (region_eq_of_nesting hleave).trans hregion
  have hlast : s.openTag.last = .token ['<'] := rfl
  simp only [slashInTag, if_pos hlast, if_pos hchildren, nesting_seen]
  exact nesting_enter (nesting_leave houter (hleave.trans h)) .jsxClosingTag

/-! ## In script -/

/-- In script, with every bracket that is open since before the innermost region counted as such
    by it. -/
structure InScript (s : Context) : Prop where
  regions_ne_nil : s.regions ≠ []
  not_isJsx : s.region.isJsx = false
  depth_lt : ∀ depth, s.region = .controlHead depth → depth < s.parenDepth
  depth_le : ∀ depth, s.region = .templateHole depth ∨ s.region = .jsxHole depth →
    depth ≤ s.openBraces.length

theorem InScript.congr (h : s.InScript) (hnesting : s'.nesting = s.nesting) : s'.InScript := by
  obtain ⟨hregions, hbraces, hdepth⟩ := nesting_eq_iff.1 hnesting
  have hregion := region_eq_of_nesting hnesting
  refine ⟨?_, ?_, ?_, ?_⟩
  · rw [hregions]
    exact h.regions_ne_nil
  · rw [hregion]
    exact h.not_isJsx
  · rw [hregion, hdepth]
    exact h.depth_lt
  · rw [hregion, hbraces]
    exact h.depth_le

theorem inScript_start : InScript {} := by
  refine ⟨by decide, rfl, ?_, ?_⟩ <;> simp [region]

theorem inScript_openTemplateHole (s : Context) : s.openTemplateHole.InScript := by
  refine ⟨by simp [openTemplateHole, enter, seen, withOperand], rfl, ?_, ?_⟩ <;>
    simp [openTemplateHole, enter, seen, withOperand, region]

theorem inScript_openJsxHole (s : Context) : s.openJsxHole.InScript := by
  refine ⟨by simp [openJsxHole, enter, seen, withOperand], rfl, ?_, ?_⟩ <;>
    simp [openJsxHole, enter, seen, withOperand, region]

/-! ## Parentheses -/

/-- A parenthesis that opens no head of a control statement stays in the region. -/
theorem nesting_openParen (h : s.last ≠ .controlKeyword) :
    s.openParen.nesting = { s with parenDepth := s.parenDepth + 1 }.nesting := by
  rw [openParen, if_neg h]
  rfl

theorem InScript.openParen (h : s.InScript) (hlast : s.last ≠ .controlKeyword) :
    s.openParen.InScript := by
  have hinner : InScript { s with parenDepth := s.parenDepth + 1 } := by
    refine ⟨h.regions_ne_nil, h.not_isJsx, ?_, h.depth_le⟩
    intro depth hregion
    exact Int.lt_add_one_iff.2 (Int.le_of_lt (h.depth_lt depth hregion))
  exact hinner.congr (nesting_openParen hlast)

/-- The parenthesis that closes one opened in the region. -/
theorem nesting_closeParen (hscript : s.InScript) (hlast : s.last ≠ .controlKeyword)
    (h : s'.nesting = s.openParen.nesting) : s'.closeParen.nesting = s.nesting := by
  rw [nesting_openParen hlast] at h
  have hregion : s'.region = s.region := (region_eq_of_nesting h).trans rfl
  obtain ⟨hregions, hbraces, hdepth⟩ := nesting_eq_iff.1 h
  have hback : s'.parenDepth - 1 = s.parenDepth := by
    rw [hdepth]
    exact Int.add_sub_cancel _ _
  have hhead : s'.region ≠ .controlHead (s'.parenDepth - 1) := by
    intro heq
    rw [hregion, hback] at heq
    exact Int.lt_irrefl _ (hscript.depth_lt _ heq)
  rw [closeParen, if_neg hhead, nesting_afterOperand]
  exact nesting_eq_iff.2 ⟨hregions, hbraces, hback⟩

/-! ## Braces -/

theorem InScript.openBrace (h : s.InScript) : s.openBrace.InScript := by
  refine ⟨h.regions_ne_nil, h.not_isJsx, h.depth_lt, ?_⟩
  intro depth hregion
  exact Nat.le_succ_of_le (h.depth_le depth hregion)

/-- The brace that closes one opened in the region is read as a punctuator. -/
theorem InScript.region_ne_hole (hscript : s.InScript) (h : s'.nesting = s.openBrace.nesting) :
    s'.region ≠ .templateHole s'.openBraces.length ∧
      s'.region ≠ .jsxHole s'.openBraces.length := by
  have hregion : s'.region = s.region := (region_eq_of_nesting h).trans rfl
  have hlength : s'.openBraces.length = s.openBraces.length + 1 := by
    rw [(nesting_eq_iff.1 h).2.1]
    rfl
  rw [hregion, hlength]
  constructor
  · intro heq
    exact Nat.not_succ_le_self _ (hscript.depth_le _ (.inl heq))
  · intro heq
    exact Nat.not_succ_le_self _ (hscript.depth_le _ (.inr heq))

theorem nesting_closeBrace (h : s'.nesting = s.openBrace.nesting) :
    s'.closeBrace.nesting = s.nesting := by
  obtain ⟨hregions, hbraces, hdepth⟩ := nesting_eq_iff.1 h
  have hback : s'.openBraces.tail = s.openBraces := by rw [hbraces]; rfl
  unfold closeBrace
  split
  · exact nesting_eq_iff.2 ⟨hregions, hback, hdepth⟩
  · exact nesting_eq_iff.2 ⟨hregions, hback, hdepth⟩

end SyntaxColor.Context
