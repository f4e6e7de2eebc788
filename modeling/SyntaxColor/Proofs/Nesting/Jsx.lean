/-
  The lexer reads JSX elements: their tags, attributes and children, with expressions in braces.

  As for expressions, there is one lemma for each construct, in which the parts are any texts that
  are read as what they stand for (`ReadsAsElement`, `ReadsAsAttributes`, `ReadsAsChildren`).
-/
import SyntaxColor.Proofs.Nesting.Script

namespace SyntaxColor.Nesting

/-! ## Tags -/

/-- In a tag, behind its name or an attribute. -/
structure InTag (s : Context) : Prop where
  region_eq : s.region = .jsxTag
  last_ne_open : s.last ≠ .token ['<']
  last_ne_slash : s.last ≠ .token ['/']

/-- In a tag, `source` is read as the attributes that are `tokens`. -/
def ReadsAsAttributes (source : Text) (tokens : List Token) : Prop :=
  ∀ (s : Context) (rest : Text), InTag s →
    ∃ s', Reads true s (source ++ rest) tokens s' rest ∧ s'.nesting = s.nesting ∧ InTag s'

/-- Behind the `<` of its first tag, `source` is read as the element that goes on with `tokens`. -/
def ReadsAsElement (source : Text) (tokens : List Token) : Prop :=
  ∀ (s outer : Context) (rest : Text), outer.regions ≠ [] → s.nesting = outer.openTag.nesting →
    s.last = .token ['<'] →
    ∃ s', Reads true s (source ++ rest) tokens s' rest ∧ s'.nesting = outer.nesting

/-- Between tags, `source` is read as the children that are `tokens`. -/
def ReadsAsChildren (source : Text) (tokens : List Token) : Prop :=
  ∀ (s : Context) (rest : Text), s.region = .jsxChildren → rest.head? = some '<' →
    ∃ s', Reads true s (source ++ rest) tokens s' rest ∧ s'.nesting = s.nesting

theorem InTag.congr {s s' : Context} {text : Text} (h : InTag s) (hnesting : s'.nesting = s.nesting)
    (hlast : s'.last = .token text) (htext : text ∉ [['<'], ['/']]) : InTag s' := by
  simp only [List.mem_cons, List.not_mem_nil, or_false, not_or] at htext
  refine ⟨(Context.region_eq_of_nesting hnesting).trans h.region_eq, ?_, ?_⟩
  · simpa [hlast] using htext.1
  · simpa [hlast] using htext.2

theorem Letters.text_ne_singleton (name : Letters) {c : Char} (hc : c.isAlpha = false) :
    name.text ≠ [c] := by
  intro heq
  have := name.isAlpha c (by simp [heq])
  simp [hc] at this

theorem reads_jsxName {s : Context} (hs : s.region = .jsxTag ∨ s.region = .jsxClosingTag)
    (name : Letters) {rest : Text}
    (hrest : ∀ c, rest.head? = some c → Lexeme.isJsxNamePart c = false) :
    Reads true s (name.text ++ rest) [⟨.jsxName, name.text⟩] (s.seen (.token name.text)) rest :=
  .single name.text_ne_nil (step_jsxName hs name.text_ne_nil name.isAlpha hrest)

/-- An expression in braces, from behind the opening brace on. -/
theorem ReadsAsExpression.jsxHole {source : Text} {tokens : List Token}
    (h : ReadsAsExpression source tokens) {s : Context} (hs : s.regions ≠ []) (rest : Text) :
    ∃ s', Reads true s.openJsxHole (source ++ '}' :: rest) (tokens ++ [jsxMark '}']) s' rest ∧
      s'.nesting = s.nesting ∧ s'.last = .token ['}'] := by
  have hinner : AtExpression s.openJsxHole := ⟨Context.inScript_openJsxHole s, rfl⟩
  obtain ⟨s', hread, hnesting⟩ :=
    h s.openJsxHole ('}' :: rest) hinner (endsExpression_cons (by decide) rest)
  have hregion : s'.region = .jsxHole s'.openBraces.length := by
    rw [Context.region_eq_of_nesting hnesting, (Context.nesting_eq_iff.1 hnesting).2.1]
    rfl
  have hclose : s'.step true ('}' :: rest) = ⟨.jsxMark, 1, s'.leave.seen (.token ['}'])⟩ :=
    step_jsxHoleEnd hregion rest
  exact ⟨_, hread.trans (.char hclose (.done _ _)), Context.nesting_leave hs hnesting, rfl⟩

/-! ## Attributes -/

theorem readsAsAttributes_nil : ReadsAsAttributes [] [] := by
  intro s rest hs
  exact ⟨s, .done s rest, rfl, hs⟩

/-- The blank before an attribute, its name, and the `=` behind it. -/
theorem reads_attributeName {s : Context} (hs : s.region = .jsxTag) (name : Letters)
    (rest : Text) :
    ∃ s', Reads true s (' ' :: name.text ++ '=' :: rest)
      [⟨.whitespace, [' ']⟩, ⟨.jsxName, name.text⟩, jsxMark '='] s' rest ∧
      s'.nesting = s.nesting := by
  have hblank : s.step true (' ' :: (name.text ++ '=' :: rest)) = ⟨.whitespace, 1, s⟩ := by
    obtain ⟨c, letters, hname⟩ := List.exists_cons_of_ne_nil name.text_ne_nil
    rw [hname]
    exact step_blank (.inl hs) (name.isAlpha c (by simp [hname])) _
  have hname := reads_jsxName (.inl hs) name (forall_head?_cons (c := '=') (by decide) rest)
  have hregion : (s.seen (.token name.text)).region = .jsxTag := hs
  have hmark : (s.seen (.token name.text)).step true ('=' :: rest) =
      ⟨.jsxMark, 1, (s.seen (.token name.text)).afterJsxMark '='⟩ :=
    step_jsxMark (.inl hregion) rfl
  exact ⟨_, .char hblank (hname.trans (.char hmark (.done _ _))), rfl⟩

section Attributes

variable {source more : Text} {tokens moreTokens : List Token}
  (hmore : ReadsAsAttributes more moreTokens) (name : Letters)
include hmore

theorem ReadsAsAttributes.quoted (value : ValueContent) :
    ReadsAsAttributes (' ' :: name.text ++ '=' :: '"' :: value.1 ++ '"' :: more)
      (⟨.whitespace, [' ']⟩ :: ⟨.jsxName, name.text⟩ :: jsxMark '=' ::
        ⟨.jsxValue, '"' :: value.1 ++ ['"']⟩ :: moreTokens) := by
  intro s rest hs
  have hvalue : ∀ c ∈ value.1, c ≠ '"' := fun c hc => by simpa using value.2 c hc
  obtain ⟨s₁, hname, hs₁⟩ :=
    reads_attributeName hs.region_eq name ('"' :: value.1 ++ ['"'] ++ (more ++ rest))
  have hregion : s₁.region = .jsxTag := (Context.region_eq_of_nesting hs₁).trans hs.region_eq
  have htag : InTag (s₁.seen (.token ('"' :: value.1 ++ ['"']))) :=
    hs.congr hs₁ rfl (by simp)
  obtain ⟨s', hread, hnesting, hs'⟩ := hmore _ rest htag
  refine ⟨s', ?_, hnesting.trans hs₁, hs'⟩
  have hread := Reads.step (List.cons_ne_nil _ _)
    (step_jsxValue (.inl hregion) (more ++ rest) hvalue) hread
  simpa using hname.trans hread

theorem ReadsAsAttributes.braced (h : ReadsAsExpression source tokens) :
    ReadsAsAttributes (' ' :: name.text ++ '=' :: '{' :: source ++ '}' :: more)
      (⟨.whitespace, [' ']⟩ :: ⟨.jsxName, name.text⟩ :: jsxMark '=' :: jsxMark '{' ::
        tokens ++ jsxMark '}' :: moreTokens) := by
  intro s rest hs
  obtain ⟨s₁, hname, hs₁⟩ :=
    reads_attributeName hs.region_eq name ('{' :: (source ++ '}' :: (more ++ rest)))
  have hregion : s₁.region = .jsxTag := (Context.region_eq_of_nesting hs₁).trans hs.region_eq
  have hopen : s₁.step true ('{' :: (source ++ '}' :: (more ++ rest))) =
      ⟨.jsxMark, 1, s₁.openJsxHole⟩ := step_jsxMark (.inl hregion) rfl
  obtain ⟨s₂, hinner, hs₂, hlast⟩ := h.jsxHole
    (Context.regions_ne_nil_of_isJsx (by rw [hregion]; rfl)) (more ++ rest)
  obtain ⟨s', hread, hnesting, hs'⟩ := hmore s₂ rest (hs.congr (hs₂.trans hs₁) hlast (by simp))
  refine ⟨s', ?_, hnesting.trans (hs₂.trans hs₁), hs'⟩
  simpa [jsxMark] using hname.trans (.char hopen (hinner.trans hread))

end Attributes

/-! ## Between tags -/

/-- A text between tags, which may be empty. -/
theorem reads_prose {s : Context} (hs : s.region = .jsxChildren) (prose : Prose) {rest : Text}
    (hrest : ∀ c, rest.head? = some c → Lexeme.isJsxDelimiter c = true) :
    ∃ s', Reads true s (prose.1 ++ rest) prose.tokens s' rest ∧ s'.nesting = s.nesting := by
  unfold Prose.tokens
  split
  · next hnil =>
    rw [hnil]
    exact ⟨s, .done s rest, rfl⟩
  · next hne =>
    have hprose : ∀ c ∈ prose.1, Lexeme.isJsxDelimiter c = false := by
      intro c hc
      simpa [Lexeme.isJsxDelimiter, and_assoc] using prose.2 c hc
    exact ⟨_, .single hne (step_jsxContent hs hne hprose hrest), rfl⟩

theorem readsAsChildren_last (prose : Prose) : ReadsAsChildren prose.1 prose.tokens := by
  intro s rest hs hrest
  refine reads_prose hs prose fun c hc => ?_
  obtain rfl := Option.some.inj (hrest.symm.trans hc)
  decide

section Children

variable {source more : Text} {tokens moreTokens : List Token}
  (hmore : ReadsAsChildren more moreTokens) (prose : Prose)
include hmore

theorem ReadsAsChildren.element (h : ReadsAsElement source tokens) :
    ReadsAsChildren (prose.1 ++ '<' :: source ++ more)
      (prose.tokens ++ jsxMark '<' :: tokens ++ moreTokens) := by
  intro s rest hs hrest
  obtain ⟨s₁, hprose, hs₁⟩ := reads_prose hs prose
    (forall_head?_cons (c := '<') (by decide) (source ++ (more ++ rest)))
  have hregion : s₁.region = .jsxChildren := (Context.region_eq_of_nesting hs₁).trans hs
  have hopen : s₁.step true ('<' :: (source ++ (more ++ rest))) = ⟨.jsxMark, 1, s₁.openTag⟩ :=
    step_jsxChild hregion (by decide) rfl
  obtain ⟨s₂, helement, hs₂⟩ := h s₁.openTag s₁ (more ++ rest)
    (Context.regions_ne_nil_of_isJsx (by rw [hregion]; rfl)) rfl rfl
  obtain ⟨s', hread, hnesting⟩ :=
    hmore s₂ rest ((Context.region_eq_of_nesting hs₂).trans hregion) hrest
  refine ⟨s', ?_, hnesting.trans (hs₂.trans hs₁)⟩
  simpa [jsxMark] using hprose.trans (.char hopen (helement.trans hread))

theorem ReadsAsChildren.braced (h : ReadsAsExpression source tokens) :
    ReadsAsChildren (prose.1 ++ '{' :: source ++ '}' :: more)
      (prose.tokens ++ jsxMark '{' :: tokens ++ jsxMark '}' :: moreTokens) := by
  intro s rest hs hrest
  obtain ⟨s₁, hprose, hs₁⟩ := reads_prose hs prose
    (forall_head?_cons (c := '{') (by decide) (source ++ '}' :: (more ++ rest)))
  have hregion : s₁.region = .jsxChildren := (Context.region_eq_of_nesting hs₁).trans hs
  have hopen : s₁.step true ('{' :: (source ++ '}' :: (more ++ rest))) =
      ⟨.jsxMark, 1, s₁.openJsxHole⟩ := step_jsxChild hregion (by decide) rfl
  obtain ⟨s₂, hinner, hs₂, -⟩ := h.jsxHole
    (Context.regions_ne_nil_of_isJsx (by rw [hregion]; rfl)) (more ++ rest)
  obtain ⟨s', hread, hnesting⟩ :=
    hmore s₂ rest ((Context.region_eq_of_nesting hs₂).trans hregion) hrest
  refine ⟨s', ?_, hnesting.trans (hs₂.trans hs₁)⟩
  simpa [jsxMark] using hprose.trans (.char hopen (hinner.trans hread))

end Children

/-! ## Elements -/

/-- The name and the attributes of a tag, up to its end. -/
theorem ReadsAsAttributes.tag {source : Text} {tokens : List Token}
    (h : ReadsAsAttributes source tokens) (hsource : source = [] ∨ source.head? = some ' ')
    (name : Letters) {s : Context} (hs : s.region = .jsxTag) {c : Char}
    (hc : Lexeme.isJsxNamePart c = false) (rest : Text) :
    ∃ s', Reads true s (name.text ++ source ++ c :: rest) (⟨.jsxName, name.text⟩ :: tokens) s'
      (c :: rest) ∧ s'.nesting = s.nesting ∧ InTag s' := by
  have hstop : ∀ d, (source ++ c :: rest).head? = some d → Lexeme.isJsxNamePart d = false := by
    obtain rfl | hhead := hsource
    · exact forall_head?_cons hc rest
    · obtain ⟨more, rfl⟩ := List.head?_eq_some_iff.1 hhead
      exact forall_head?_cons (by decide) _
  have htag : InTag (s.seen (.token name.text)) := by
    refine ⟨hs, ?_, ?_⟩
    · simpa [Context.seen] using name.text_ne_singleton (c := '<') rfl
    · simpa [Context.seen] using name.text_ne_singleton (c := '/') rfl
  obtain ⟨s', hread, hnesting, hs'⟩ := h (s.seen (.token name.text)) (c :: rest) htag
  refine ⟨s', ?_, hnesting, hs'⟩
  simpa using (reads_jsxName (.inl hs) name hstop).trans hread

/-- The closing tag of an element, behind its children. -/
theorem reads_closingTag {s outer : Context} (houter : outer.regions ≠ [])
    (hs : s.nesting = (outer.enter .jsxChildren).nesting) (name : Letters) (rest : Text) :
    ∃ s', Reads true s ('<' :: '/' :: name.text ++ '>' :: rest)
      [jsxMark '<', jsxMark '/', ⟨.jsxName, name.text⟩, jsxMark '>'] s' rest ∧
      s'.nesting = outer.nesting := by
  have hregion : s.region = .jsxChildren := Context.region_eq_of_nesting hs
  have hopen : s.step true ('<' :: '/' :: (name.text ++ '>' :: rest)) =
      ⟨.jsxMark, 1, s.openTag⟩ := step_jsxChild hregion (by decide) rfl
  have hslash : s.openTag.step true ('/' :: (name.text ++ '>' :: rest)) =
      ⟨.jsxMark, 1, s.openTag.slashInTag⟩ := by
    obtain ⟨c, letters, hname⟩ := List.exists_cons_of_ne_nil name.text_ne_nil
    have hc := name.isAlpha c (by simp [hname])
    refine step_jsxMark (.inl rfl) ?_
    simp [hname, Lexeme.jsxMark, ne_of_isAlpha hc]
  have hs₁ : s.openTag.slashInTag.nesting = (outer.enter .jsxClosingTag).nesting :=
    Context.nesting_slashInTag houter hs
  generalize s.openTag.slashInTag = s₁ at hslash hs₁
  have hclosing : s₁.region = .jsxClosingTag := Context.region_eq_of_nesting hs₁
  have hname := reads_jsxName (.inr hclosing) name (forall_head?_cons (c := '>') (by decide) rest)
  have hclosed : (s₁.seen (.token name.text)).region = .jsxClosingTag := hclosing
  have hclose : (s₁.seen (.token name.text)).step true ('>' :: rest) =
      ⟨.jsxMark, 1, (s₁.seen (.token name.text)).closeTag⟩ := step_jsxMark (.inr hclosed) rfl
  refine ⟨_, .char hopen (.char hslash (hname.trans (.char hclose (.done _ _)))), ?_⟩
  rw [Context.closeTag, if_pos (.inr hclosed)]
  exact Context.nesting_leave houter hs₁

section Elements

variable {source : Text} {tokens : List Token} (h : ReadsAsAttributes source tokens)
  (hsource : source = [] ∨ source.head? = some ' ') (name : Letters)
include h hsource

theorem ReadsAsAttributes.single : ReadsAsElement (name.text ++ source ++ ['/', '>'])
    (⟨.jsxName, name.text⟩ :: tokens ++ [jsxMark '/', jsxMark '>']) := by
  intro s outer rest houter hs _
  obtain ⟨s₁, htag, hs₁, hin⟩ := h.tag hsource name (Context.region_eq_of_nesting hs)
    (c := '/') (by decide) ('>' :: rest)
  have hslash : s₁.step true ('/' :: '>' :: rest) = ⟨.jsxMark, 1, s₁.slashInTag⟩ :=
    step_jsxMark (.inl hin.region_eq) rfl
  have hs₂ : s₁.slashInTag = s₁.seen (.token ['/']) := if_neg hin.last_ne_open
  have hregion : (s₁.seen (.token ['/'])).region = .jsxTag := hin.region_eq
  have hclose : s₁.slashInTag.step true ('>' :: rest) = ⟨.jsxMark, 1, s₁.slashInTag.closeTag⟩ := by
    rw [hs₂]
    exact step_jsxMark (.inl hregion) rfl
  refine ⟨s₁.slashInTag.closeTag, ?_, ?_⟩
  · simpa [jsxMark] using htag.trans (.char hslash (.char hclose (.done _ _)))
  · rw [hs₂, Context.closeTag, if_pos (.inl rfl)]
    exact Context.nesting_leave houter (hs₁.trans hs)

theorem ReadsAsAttributes.paired {inside : Text} {insideTokens : List Token}
    (hinside : ReadsAsChildren inside insideTokens) :
    ReadsAsElement (name.text ++ source ++ '>' :: inside ++ '<' :: '/' :: name.text ++ ['>'])
      (⟨.jsxName, name.text⟩ :: tokens ++ jsxMark '>' :: insideTokens ++
        [jsxMark '<', jsxMark '/', ⟨.jsxName, name.text⟩, jsxMark '>']) := by
  intro s outer rest houter hs _
  obtain ⟨s₁, htag, hs₁, hin⟩ := h.tag hsource name (Context.region_eq_of_nesting hs)
    (c := '>') (by decide) (inside ++ ('<' :: '/' :: name.text ++ '>' :: rest))
  have hclose : s₁.step true ('>' :: (inside ++ ('<' :: '/' :: name.text ++ '>' :: rest))) =
      ⟨.jsxMark, 1, s₁.closeTag⟩ := step_jsxMark (.inl hin.region_eq) rfl
  have hs₂ : s₁.closeTag.nesting = (outer.enter .jsxChildren).nesting := by
    have hclosing : ¬ (s₁.last = .token ['/'] ∨ s₁.region = .jsxClosingTag) := by
      simp [hin.last_ne_slash, hin.region_eq]
    rw [Context.closeTag, if_neg hclosing]
    exact Context.nesting_enter (Context.nesting_leave houter (hs₁.trans hs)) .jsxChildren
  obtain ⟨s₃, hread, hs₃⟩ := hinside s₁.closeTag ('<' :: '/' :: name.text ++ '>' :: rest)
    (Context.region_eq_of_nesting hs₂) rfl
  obtain ⟨s', hend, hnesting⟩ := reads_closingTag houter (hs₃.trans hs₂) name rest
  refine ⟨s', ?_, hnesting⟩
  simpa [jsxMark] using htag.trans (.char hclose (hread.trans hend))

end Elements

theorem ReadsAsElement.expression {source : Text} {tokens : List Token}
    (h : ReadsAsElement source tokens) (hsource : source.head?.any Char.isAlpha = true) :
    ReadsAsExpression ('<' :: source) (jsxMark '<' :: tokens) := by
  intro s rest hs _
  obtain ⟨c, more, rfl, hc⟩ : ∃ c more, source = c :: more ∧ c.isAlpha = true := by
    cases source with
    | nil => simp at hsource
    | cons c more => exact ⟨c, more, rfl, by simpa using hsource⟩
  have hlength : Lexeme.punctuator ('<' :: c :: (more ++ rest)) = 1 :=
    Lexeme.punctuator_lt (by simp [ne_of_isAlpha hc]) _
  have hopen : s.step true ('<' :: c :: (more ++ rest)) = ⟨.jsxMark, 1, s.openTag⟩ :=
    step_tagStart hs.inScript.not_isJsx hs.expressionMayFollow hlength
  obtain ⟨s', hread, hnesting⟩ := h s.openTag s rest hs.inScript.regions_ne_nil rfl rfl
  exact ⟨s', .char hopen hread, hnesting⟩

end SyntaxColor.Nesting
