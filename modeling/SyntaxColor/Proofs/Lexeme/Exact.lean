/-
  Lexemes that end where they are meant to.  Each statement puts a rest behind a lexeme that cannot
  go on with it, and says that the scanner finds the lexeme and nothing of the rest.
-/
import SyntaxColor.Proofs.Grammar.Name
import SyntaxColor.Proofs.Grammar.Number
import SyntaxColor.Proofs.Grammar.Quotation

namespace SyntaxColor.Lexeme

open Text Unicode

/-! ## Names -/

theorem nameParts_eq_zero {rest : Text}
    (h : ∀ c, rest.head? = some c → continuesName c = false ∧ c ≠ '\\') :
    nameParts 0 rest = 0 := by
  cases rest with
  | nil => rfl
  | cons c rest =>
    obtain ⟨hpart, hescape⟩ := h c rfl
    have hzero : nameEscape (c :: rest) = 0 := nameEscape_eq_zero (by simpa using hescape)
    simp [nameParts, hpart, hzero]

theorem name_append {letters rest : Text} (hne : letters ≠ [])
    (hletters : ∀ c ∈ letters, c.isAlpha = true)
    (hrest : ∀ c, rest.head? = some c → continuesName c = false ∧ c ≠ '\\') :
    name (letters ++ rest) = letters.length := by
  have hparts : NameParts letters := Text.of_forall .nil .char fun c hc =>
    continuesName_of_isAlpha (hletters c hc)
  have hread := hparts.nameParts_add rest
  rw [nameParts_eq_zero hrest, Nat.add_zero] at hread
  obtain ⟨c, letters, rfl⟩ := List.exists_cons_of_ne_nil hne
  have hc := hletters c (by simp)
  have hhash := ne_of_isAlpha hc (d := '#') rfl
  simp only [List.cons_append] at hread ⊢
  simp [name, plainName, beginsName_of_isAlpha hc, hhash, hread]

/-! ## Numbers -/

/-- A decimal integer without a leading zero, before a character that no number goes on with. -/
theorem number_append {d : Char} {ds rest : Text} (hd : d.isDigit = true) (hzero : d ≠ '0')
    (hds : ∀ e ∈ ds, e.isDigit = true)
    (hrest : ∀ c, rest.head? = some c → c.isDigit = false ∧ c ∉ ['_', '.', 'n', 'e', 'E']) :
    number (d :: ds ++ rest) = (d :: ds).length := by
  have hdigits : IsDigits Char.isDigit (d :: ds) := .cons hd (Text.of_forall .nil .digit hds)
  have hinteger : IsInteger (d :: ds) := .positive hdigits (by simpa using hzero)
  have hstop : ∀ c ∈ ['_', '.', 'n', 'e', 'E'], rest.head? ≠ some c :=
    fun c hc h => (hrest c h).2 hc
  have hstops : StopsDigits Char.isDigit rest := fun c hc =>
    ⟨(hrest c hc).1, fun h => hstop '_' (by simp) (h ▸ hc)⟩
  have hhead : (d :: ds ++ rest).head? ≠ some '0' := by simpa using hzero
  have hmark : bigMark ((d :: ds ++ rest).drop (digits Char.isDigit (d :: ds ++ rest))) = 0 := by
    rw [hdigits.digits_append rfl hstops, List.drop_left]
    exact bigMark_eq_zero (hstop 'n' (by simp))
  have hmantissa : mantissa (d :: ds ++ rest) = (d :: ds).length := by
    rw [hinteger.mantissa_append hstops, fractionPart_eq_zero (hstop '.' (by simp)), Nat.add_zero]
  rw [number_eq_decimal hhead hmark, decimal_append (List.cons_ne_nil d ds) hmantissa,
    exponentPart_eq_zero (hstop 'e' (by simp)) (hstop 'E' (by simp)), Nat.add_zero]

/-! ## Strings -/

/-- A string without escapes. -/
theorem string_append {quote : Char} {content : Text} (rest : Text) (hquote : quote ∈ ['\'', '"'])
    (hcontent : ∀ c ∈ content, c ∉ [quote, '\\', '\r', '\n']) :
    string (quote :: content ++ quote :: rest) = content.length + 2 :=
  (StringAt.string hquote (.closed (Text.of_forall .nil .char hcontent) rest)).eq

/-! ## JSX -/

theorem jsxName_append {letters rest : Text} (hne : letters ≠ [])
    (hletters : ∀ c ∈ letters, c.isAlpha = true)
    (hrest : ∀ c, rest.head? = some c → isJsxNamePart c = false) :
    jsxName (letters ++ rest) = letters.length := by
  obtain ⟨c, letters, rfl⟩ := List.exists_cons_of_ne_nil hne
  have hc := beginsName_of_isAlpha (hletters c (by simp))
  have hpart : ∀ d ∈ c :: letters, isJsxNamePart d = true := by
    intro d hd
    simp [isJsxNamePart, continuesName_of_isAlpha (hletters d hd)]
  have hrun := runLength_append hpart hrest
  simp only [List.cons_append] at hrun ⊢
  simp [jsxName, hc, hrun]

theorem throughQuote_append {quote : Char} {content : Text} (rest : Text)
    (hcontent : ∀ c ∈ content, c ≠ quote) :
    throughQuote quote (content ++ quote :: rest) = content.length + 1 := by
  induction content with
  | nil => simp [throughQuote]
  | cons c content ih =>
    have hc := hcontent c (by simp)
    have hmore := ih fun d hd => hcontent d (List.mem_cons_of_mem _ hd)
    simp [throughQuote, hc, hmore]

/-! ## Punctuators -/

/-- A punctuator of one character, before a character that goes on with none that begins so. -/
theorem punctuator_eq_one {c d : Char} {continuing : List Char} (hmark : [c] ∈ punctuators)
    (hc : c ≠ '/' ∧ c ≠ '.')
    (hlonger : punctuators.all (fun mark =>
      mark.head? ≠ some c || mark.tail.head?.all (· ∈ continuing)) = true)
    (hd : d ∉ continuing) (rest : Text) : punctuator (c :: d :: rest) = 1 := by
  have hne := punctuator_ne_zero hmark hc.1 hc.2 (d :: rest)
  have hmem := take_punctuator_mem hne
  refine Decidable.byContradiction fun hone => hd ?_
  obtain ⟨n, hn⟩ : ∃ n, punctuator (c :: d :: rest) = n + 2 :=
    ⟨punctuator (c :: d :: rest) - 2, by omega⟩
  rw [hn] at hmem
  simpa using List.all_eq_true.1 hlonger _ hmem

/-- A `<` that begins no longer punctuator. -/
theorem punctuator_lt {d : Char} (hd : d ∉ ['=', '<']) (rest : Text) :
    punctuator ('<' :: d :: rest) = 1 :=
  punctuator_eq_one (by decide) (by decide) (by decide) hd rest

/-- A `=` that begins no longer punctuator. -/
theorem punctuator_eq {d : Char} (hd : d ∉ ['=', '>']) (rest : Text) :
    punctuator ('=' :: d :: rest) = 1 :=
  punctuator_eq_one (by decide) (by decide) (by decide) hd rest

end SyntaxColor.Lexeme
