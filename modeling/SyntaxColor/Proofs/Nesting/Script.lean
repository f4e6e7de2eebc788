/-
  The lexer reads nested expressions: names, brackets, objects and template literals.

  What is shown of a construct holds in every context that it can stand in.  It is read as its
  tokens, whatever the nesting around it, and the nesting after it is the one before it
  (`ReadsAsExpression`, `ReadsAsHoles`).  There is one lemma for each construct, in which the parts
  are any texts that are read so.
-/
import SyntaxColor.Proofs.Nesting.Around
import SyntaxColor.Proofs.Nesting.Grammar
import SyntaxColor.Proofs.Token.Exact

namespace SyntaxColor.Nesting

/-! ## What is read where -/

/-- A context in script in which an expression may begin. -/
structure AtExpression (s : Context) : Prop where
  inScript : s.InScript
  expressionMayFollow : s.last.expressionMayFollow = true

/-- A text that ends the expression before it, by its own end or by a closing bracket. -/
def EndsExpression (rest : Text) : Prop := ∀ c, rest.head? = some c → c ∈ [')', ']', '}']

/-- Where an expression may begin, `source` is read as `tokens`. -/
def ReadsAsExpression (source : Text) (tokens : List Token) : Prop :=
  ∀ (s : Context) (rest : Text), AtExpression s → EndsExpression rest →
    ∃ s', Reads true s (source ++ rest) tokens s' rest ∧ s'.nesting = s.nesting

theorem AtExpression.ne_controlKeyword {s : Context} (h : AtExpression s) :
    s.last ≠ .controlKeyword := by
  intro hlast
  have := h.expressionMayFollow
  simp [hlast, Landmark.expressionMayFollow] at this

theorem endsExpression_nil : EndsExpression [] := by
  intro c hc
  cases hc

theorem EndsExpression.forall_head? {p : Char → Prop} {rest : Text} (h : EndsExpression rest)
    (hparen : p ')') (hbracket : p ']') (hbrace : p '}') : ∀ c, rest.head? = some c → p c := by
  intro c hc
  have hcloser := h c hc
  simp only [List.mem_cons, List.not_mem_nil, or_false] at hcloser
  obtain rfl | rfl | rfl := hcloser
  · exact hparen
  · exact hbracket
  · exact hbrace

theorem forall_head?_cons {p : Char → Prop} {c : Char} (h : p c) (rest : Text) :
    ∀ d, (c :: rest).head? = some d → p d := by
  intro d hd
  obtain rfl := Option.some.inj hd
  exact h

theorem endsExpression_cons {c : Char} (hc : c ∈ [')', ']', '}']) (rest : Text) :
    EndsExpression (c :: rest) :=
  forall_head?_cons hc rest

/-! ## Names, numbers and strings -/

theorem readsAs_name (name : Name) :
    ReadsAsExpression name.text [⟨.identifier, name.text⟩] := by
  intro s rest hs hrest
  have hstop : ∀ c, rest.head? = some c → Unicode.continuesName c = false ∧ c ≠ '\\' :=
    hrest.forall_head? (by decide) (by decide) (by decide)
  exact ⟨_, .single name.text_ne_nil
    (step_name hs.inScript.not_isJsx name.text_ne_nil name.isAlpha hstop), rfl⟩

theorem readsAs_number (numeral : Numeral) :
    ReadsAsExpression numeral.text [⟨.number, numeral.text⟩] := by
  intro s rest hs hrest
  have hstop : ∀ c, rest.head? = some c → c.isDigit = false ∧ c ∉ ['_', '.', 'n', 'e', 'E'] :=
    hrest.forall_head? (by decide) (by decide) (by decide)
  exact ⟨_, .single (List.cons_ne_nil _ _)
    (step_number hs.inScript.not_isJsx numeral.first_isDigit numeral.first_ne_zero
      numeral.isDigit hstop), rfl⟩

theorem readsAs_string (content : StringContent) :
    ReadsAsExpression ('\'' :: content.1 ++ ['\'']) [⟨.string, '\'' :: content.1 ++ ['\'']⟩] := by
  intro s rest hs _
  exact ⟨_, .single (List.cons_ne_nil _ _)
    (step_string hs.inScript.not_isJsx rest content.2), rfl⟩

/-! ## Brackets and objects -/

section Brackets

variable {source : Text} {tokens : List Token} (h : ReadsAsExpression source tokens)
include h

theorem ReadsAsExpression.paren : ReadsAsExpression ('(' :: source ++ [')'])
    (punctuator '(' :: tokens ++ [punctuator ')']) := by
  intro s rest hs _
  have hopen : s.step true ('(' :: (source ++ ')' :: rest)) = ⟨.punctuator, 1, s.openParen⟩ :=
    step_punctuator hs.inScript.not_isJsx (by decide) rfl (by simp)
  have hinner : AtExpression s.openParen :=
    ⟨hs.inScript.openParen hs.ne_controlKeyword, by rfl⟩
  obtain ⟨s', hread, hnesting⟩ :=
    h s.openParen (')' :: rest) hinner (endsExpression_cons (by decide) rest)
  have hclose : s'.step true (')' :: rest) = ⟨.punctuator, 1, s'.closeParen⟩ :=
    step_punctuator (hinner.inScript.congr hnesting).not_isJsx (by decide) rfl (by simp)
  refine ⟨s'.closeParen, ?_, Context.nesting_closeParen hs.inScript hs.ne_controlKeyword hnesting⟩
  simpa [punctuator] using Reads.char hopen (hread.trans (.char hclose (.done _ _)))

theorem ReadsAsExpression.bracket : ReadsAsExpression ('[' :: source ++ [']'])
    (punctuator '[' :: tokens ++ [punctuator ']']) := by
  intro s rest hs _
  have hopen : s.step true ('[' :: (source ++ ']' :: rest)) =
      ⟨.punctuator, 1, s.afterOperator ['[']⟩ :=
    step_punctuator hs.inScript.not_isJsx (by decide) rfl (by simp)
  have hinner : AtExpression (s.afterOperator ['[']) := ⟨hs.inScript.congr rfl, by rfl⟩
  obtain ⟨s', hread, hnesting⟩ :=
    h (s.afterOperator ['[']) (']' :: rest) hinner (endsExpression_cons (by decide) rest)
  have hclose : s'.step true (']' :: rest) = ⟨.punctuator, 1, s'.afterOperand [']']⟩ :=
    step_punctuator (hinner.inScript.congr hnesting).not_isJsx (by decide) rfl (by simp)
  refine ⟨s'.afterOperand [']'], ?_, hnesting⟩
  simpa [punctuator] using Reads.char hopen (hread.trans (.char hclose (.done _ _)))

theorem ReadsAsExpression.object (key : Letters) :
    ReadsAsExpression ('{' :: key.text ++ ':' :: source ++ ['}'])
      (punctuator '{' :: ⟨.identifier, key.text⟩ :: punctuator ':' :: tokens ++
        [punctuator '}']) := by
  intro s rest hs _
  have hopen : s.step true ('{' :: (key.text ++ ':' :: (source ++ '}' :: rest))) =
      ⟨.punctuator, 1, s.openBrace⟩ :=
    step_punctuator hs.inScript.not_isJsx (by decide) rfl (by simp)
  have hscript : s.openBrace.InScript := hs.inScript.openBrace
  obtain ⟨s₁, hkey, hs₁⟩ : ∃ s₁, s.openBrace.step true
      (key.text ++ ':' :: (source ++ '}' :: rest)) = ⟨.identifier, key.text.length, s₁⟩ ∧
      s₁.nesting = s.openBrace.nesting :=
    ⟨_, step_name hscript.not_isJsx key.text_ne_nil key.isAlpha
      (forall_head?_cons (by decide) _), rfl⟩
  have hscript₁ : s₁.InScript := hscript.congr hs₁
  have hmark : s₁.step true (':' :: (source ++ '}' :: rest)) =
      ⟨.punctuator, 1, s₁.afterOperator [':']⟩ :=
    step_punctuator hscript₁.not_isJsx (by decide) rfl (by simp)
  have hinner : AtExpression (s₁.afterOperator [':']) := ⟨hscript₁.congr rfl, by rfl⟩
  obtain ⟨s', hread, hnesting⟩ :=
    h (s₁.afterOperator [':']) ('}' :: rest) hinner (endsExpression_cons (by decide) rest)
  replace hnesting : s'.nesting = s.openBrace.nesting := hnesting.trans hs₁
  have hclose : s'.step true ('}' :: rest) = ⟨.punctuator, 1, s'.closeBrace⟩ :=
    step_punctuator (hscript.congr hnesting).not_isJsx (by decide) rfl
      fun _ => hs.inScript.region_ne_hole hnesting
  refine ⟨s'.closeBrace, ?_, Context.nesting_closeBrace hnesting⟩
  have hread := Reads.char hmark (hread.trans (.char hclose (.done _ _)))
  simpa [punctuator] using Reads.char hopen (.step key.text_ne_nil hkey hread)

end Brackets

/-! ## Template literals -/

/-- A context in which a piece of a template literal may stand that begins with `piece`.  If it
    closes the literal, it is of the kind `closing`, and the nesting is that of `outer` behind it.
    If it opens a substitution, it is of the kind `opening`. -/
structure AtPiece (s outer : Context) (closing opening : Kind) (piece : Text) : Prop where
  closed : ∀ rest, ∃ s', s.step true (piece ++ '\x60' :: rest) =
    ⟨closing, piece.length + 1, s'⟩ ∧ s'.nesting = outer.nesting
  hole : ∀ rest, ∃ s', s.step true (piece ++ '$' :: '{' :: rest) =
    ⟨opening, piece.length + 2, s'⟩ ∧ s'.nesting = outer.openTemplateHole.nesting ∧
      s'.last = .templateHole

/-- Behind the beginning of a piece, `source` is read as the rest of a template literal, the
    pieces of which are `tokens`. -/
def ReadsAsHoles (source : Text) (tokens : Kind → Kind → Text → List Token) : Prop :=
  ∀ (s outer : Context) (closing opening : Kind) (piece rest : Text), outer.regions ≠ [] →
    AtPiece s outer closing opening piece →
    ∃ s', Reads true s (piece ++ source ++ rest) (tokens closing opening piece) s' rest ∧
      s'.nesting = outer.nesting

/-- Chunks are made of characters that a piece has no other use for. -/
theorem Chunk.templateItems (chunk : Chunk) : Lexeme.TemplateItems chunk.1 :=
  Text.of_forall .nil .char chunk.2

theorem atPiece_template {s : Context} (hs : s.InScript) (chunk : Chunk) :
    AtPiece s s .template .templateHead ('\x60' :: chunk.1) := by
  constructor
  · intro rest
    have hbody := (Lexeme.TemplateBody.closed chunk.templateItems rest).eq
    refine ⟨s.afterOperand (('\x60' :: chunk.1 ++ '\x60' :: rest).take (chunk.1.length + 2)), ?_,
      rfl⟩
    rw [List.cons_append, step_template hs.not_isJsx, hbody]
    rfl
  · intro rest
    have hbody := (Lexeme.TemplateBody.hole chunk.templateItems rest).eq
    refine ⟨s.openTemplateHole, ?_, rfl, rfl⟩
    rw [List.cons_append, step_template hs.not_isJsx, hbody]
    rfl

theorem atPiece_templateRest {s outer : Context} (houter : outer.regions ≠ [])
    (hs : s.nesting = outer.openTemplateHole.nesting) (chunk : Chunk) :
    AtPiece s outer .templateTail .templateMiddle ('}' :: chunk.1) := by
  have hregion : s.region = .templateHole s.openBraces.length := by
    rw [Context.region_eq_of_nesting hs, (Context.nesting_eq_iff.1 hs).2.1]
    rfl
  constructor
  · intro rest
    have hbody := (Lexeme.TemplateBody.closed chunk.templateItems rest).eq
    refine ⟨s.leave.afterOperand (('}' :: chunk.1 ++ '\x60' :: rest).take (chunk.1.length + 2)),
      ?_, Context.nesting_leave houter hs⟩
    rw [List.cons_append, step_templateRest hregion, hbody]
    rfl
  · intro rest
    have hbody := (Lexeme.TemplateBody.hole chunk.templateItems rest).eq
    refine ⟨(s.seen .templateHole).withOperand false, ?_, hs, rfl⟩
    rw [List.cons_append, step_templateRest hregion, hbody]
    rfl

theorem readsAsHoles_nil :
    ReadsAsHoles ['\x60'] fun closing _ piece => [⟨closing, piece ++ ['\x60']⟩] := by
  intro s outer closing opening piece rest _ hpiece
  obtain ⟨s', hstep, hnesting⟩ := hpiece.closed rest
  refine ⟨s', .single (by simp) ?_, hnesting⟩
  simpa using hstep

theorem ReadsAsExpression.hole {source more : Text} {tokens : List Token}
    {moreTokens : Kind → Kind → Text → List Token} (h : ReadsAsExpression source tokens)
    (hmore : ReadsAsHoles more moreTokens) (chunk : Chunk) :
    ReadsAsHoles ('$' :: '{' :: source ++ '}' :: chunk.1 ++ more) fun _ opening piece =>
      ⟨opening, piece ++ ['$', '{']⟩ :: tokens ++
        moreTokens .templateTail .templateMiddle ('}' :: chunk.1) := by
  intro s outer closing opening piece rest houter hpiece
  obtain ⟨s₁, hstep, hs₁, hlast⟩ := hpiece.hole (source ++ '}' :: chunk.1 ++ more ++ rest)
  have hinner : AtExpression s₁ :=
    ⟨(Context.inScript_openTemplateHole outer).congr hs₁, by rw [hlast]; rfl⟩
  obtain ⟨s₂, hread, hs₂⟩ := h s₁ ('}' :: chunk.1 ++ more ++ rest) hinner
    (endsExpression_cons (by decide) _)
  obtain ⟨s', hread', hnesting⟩ := hmore s₂ outer _ _ _ rest houter
    (atPiece_templateRest houter (hs₂.trans hs₁) chunk)
  refine ⟨s', ?_, hnesting⟩
  have hpieces : Reads true s
      ((piece ++ ['$', '{']) ++ (source ++ ('}' :: chunk.1 ++ more ++ rest)))
      (⟨opening, piece ++ ['$', '{']⟩ :: (tokens ++
        moreTokens .templateTail .templateMiddle ('}' :: chunk.1))) s' rest :=
    .step (by simp) (by simpa using hstep) (hread.trans hread')
  simpa using hpieces

theorem ReadsAsHoles.template {source : Text} {tokens : Kind → Kind → Text → List Token}
    (h : ReadsAsHoles source tokens) (chunk : Chunk) :
    ReadsAsExpression ('\x60' :: chunk.1 ++ source)
      (tokens .template .templateHead ('\x60' :: chunk.1)) := by
  intro s rest hs _
  exact h s s _ _ _ rest hs.inScript.regions_ne_nil (atPiece_template hs.inScript chunk)

end SyntaxColor.Nesting
