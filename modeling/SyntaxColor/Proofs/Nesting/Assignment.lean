/-
  The lexer reads expressions of any depth as the grammar takes them apart: the lemmas on the single
  constructs are put together along the grammar.

  `tokens_assignment`: an assignment of any expression is read as its tokens, and leaves no bracket
  and no region open.
-/
import SyntaxColor.Proofs.Nesting.Jsx

namespace SyntaxColor.Nesting

/-! ## Expressions of any depth -/

theorem head?_source_attributes (attributes : Attributes) :
    attributes.source = [] ∨ attributes.source.head? = some ' ' := by
  cases attributes with
  | nil => exact .inl (by simp [Attributes.source])
  | quoted => exact .inr (by simp [Attributes.source])
  | braced => exact .inr (by simp [Attributes.source])

theorem head?_source_element (element : Element) :
    element.source.head?.any Char.isAlpha = true := by
  cases element with
  | single name attributes =>
    obtain ⟨c, letters, hname⟩ := List.exists_cons_of_ne_nil name.text_ne_nil
    simp [Element.source, hname, name.isAlpha c]
  | paired name attributes children =>
    obtain ⟨c, letters, hname⟩ := List.exists_cons_of_ne_nil name.text_ne_nil
    simp [Element.source, hname, name.isAlpha c]

mutual

theorem Expr.readsAs : ∀ e : Expr, ReadsAsExpression e.source e.tokens
  | .name name => by
    rw [Expr.source, Expr.tokens]
    exact readsAs_name name
  | .number numeral => by
    rw [Expr.source, Expr.tokens]
    exact readsAs_number numeral
  | .string content => by
    rw [Expr.source, Expr.tokens]
    exact readsAs_string content
  | .paren inner => by
    rw [Expr.source, Expr.tokens]
    exact inner.readsAs.paren
  | .bracket inner => by
    rw [Expr.source, Expr.tokens]
    exact inner.readsAs.bracket
  | .object key value => by
    rw [Expr.source, Expr.tokens]
    exact value.readsAs.object key
  | .template chunk holes => by
    rw [Expr.source, Expr.tokens]
    exact holes.readsAs.template chunk
  | .element element => by
    rw [Expr.source, Expr.tokens]
    exact element.readsAs.expression (head?_source_element element)

theorem Holes.readsAs : ∀ holes : Holes, ReadsAsHoles holes.source holes.tokens
  | .nil => by
    simp only [Holes.source, Holes.tokens]
    exact readsAsHoles_nil
  | .cons inner chunk more => by
    simp only [Holes.source, Holes.tokens]
    exact inner.readsAs.hole more.readsAs chunk

theorem Element.readsAs : ∀ element : Element, ReadsAsElement element.source element.tokens
  | .single name attributes => by
    rw [Element.source, Element.tokens]
    exact attributes.readsAs.single (head?_source_attributes attributes) name
  | .paired name attributes children => by
    rw [Element.source, Element.tokens]
    exact attributes.readsAs.paired (head?_source_attributes attributes) name children.readsAs

theorem Attributes.readsAs : ∀ attributes : Attributes,
    ReadsAsAttributes attributes.source attributes.tokens
  | .nil => by
    rw [Attributes.source, Attributes.tokens]
    exact readsAsAttributes_nil
  | .quoted name value more => by
    rw [Attributes.source, Attributes.tokens]
    exact more.readsAs.quoted name value
  | .braced name inner more => by
    rw [Attributes.source, Attributes.tokens]
    exact more.readsAs.braced name inner.readsAs

theorem Children.readsAs : ∀ children : Children,
    ReadsAsChildren children.source children.tokens
  | .last prose => by
    rw [Children.source, Children.tokens]
    exact readsAsChildren_last prose
  | .element prose element more => by
    rw [Children.source, Children.tokens]
    exact more.readsAs.element prose element.readsAs
  | .braced prose inner more => by
    rw [Children.source, Children.tokens]
    exact more.readsAs.braced prose inner.readsAs

end

/-! ## Assignments -/

theorem head?_source (e : Expr) : ∃ c more, e.source = c :: more ∧ c ∉ ['=', '>'] := by
  cases e with
  | name name =>
    obtain ⟨c, letters, hname⟩ := List.exists_cons_of_ne_nil name.text_ne_nil
    refine ⟨c, letters, by rw [Expr.source, hname], ?_⟩
    simp [ne_of_isAlpha (name.isAlpha c (by simp [hname]))]
  | number numeral =>
    refine ⟨numeral.first, numeral.digits, by rw [Expr.source, Numeral.text], ?_⟩
    simp [ne_of_isDigit numeral.first_isDigit]
  | string => exact ⟨_, _, by rw [Expr.source]; rfl, by decide⟩
  | paren => exact ⟨_, _, by rw [Expr.source]; rfl, by decide⟩
  | bracket => exact ⟨_, _, by rw [Expr.source]; rfl, by decide⟩
  | object => exact ⟨_, _, by rw [Expr.source]; rfl, by decide⟩
  | template => exact ⟨_, _, by rw [Expr.source]; rfl, by decide⟩
  | element => exact ⟨_, _, by rw [Expr.source], by decide⟩

/-- An assignment of an expression, however deeply it is nested, is read as the tokens that the
    grammar takes it apart into.  At its end the lexer is where it started: in script, with no
    bracket open. -/
theorem tokens_assignment (e : Expr) :
    Text.tokens true ('x' :: '=' :: e.source) =
        ⟨.identifier, ['x']⟩ :: punctuator '=' :: e.tokens ∧
      (contextAfter {} (Text.trace true ('x' :: '=' :: e.source))).nesting =
        ([.script], [], 0) := by
  have hname : Context.step true {} (['x'] ++ '=' :: e.source) =
      ⟨.identifier, 1, Context.afterOperand {} ['x']⟩ :=
    step_name rfl (by simp) (by simp) (forall_head?_cons (by decide) _)
  have hmark : (Context.afterOperand {} ['x']).step true ('=' :: e.source) =
      ⟨.punctuator, 1, (Context.afterOperand {} ['x']).afterOperator ['=']⟩ := by
    obtain ⟨c, more, hsource, hc⟩ := head?_source e
    rw [hsource]
    exact step_punctuator rfl (by decide) (Lexeme.punctuator_eq hc more) (by simp)
  have hat : AtExpression ((Context.afterOperand {} ['x']).afterOperator ['=']) :=
    ⟨Context.inScript_start.congr rfl, rfl⟩
  obtain ⟨s', hread, hnesting⟩ := e.readsAs _ [] hat endsExpression_nil
  rw [List.append_nil] at hread
  have hreads : Reads true {} ('x' :: '=' :: e.source)
      (⟨.identifier, ['x']⟩ :: punctuator '=' :: e.tokens) s' [] := .char hname (.char hmark hread)
  obtain ⟨htokens, hcontext⟩ := tokens_of_reads rfl hreads
  refine ⟨htokens, ?_⟩
  rw [hcontext, hnesting]
  rfl

end SyntaxColor.Nesting
