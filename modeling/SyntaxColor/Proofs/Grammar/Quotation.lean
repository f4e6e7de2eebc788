/-
  The grammar of quoted lexemes: strings, and the pieces of template literals.

  Both are made of items, each a character or an escape, up to the first end that is not escaped.
  A string that is not closed ends before its line does, a piece of a template literal only with the
  text; a backslash that ends the text escapes nothing, and is left over in both.

  `StringItems`, `TemplateItems`: what may stand before the end.
  `StringAt`, `PieceAt`: how the lexeme at the start of a text ends, and where.
  `quotations_iff`: the scanners find these lexemes, and nothing else.
-/
import SyntaxColor.Proofs.Lexeme.Settled

namespace SyntaxColor.Lexeme

/-! ## Strings -/

/-- What stands behind the opening quote of a string, up to its end: characters, and escapes of one
    character or of a carriage return with its line feed. -/
inductive StringItems (quote : Char) : Text → Prop
  | nil : StringItems quote []
  | escapedPair {items : Text} (h : StringItems quote items) :
      StringItems quote ('\\' :: '\r' :: '\n' :: items)
  | escape {e : Char} {items : Text} (h : StringItems quote items) :
      StringItems quote ('\\' :: e :: items)
  | char {c : Char} {items : Text} (hc : c ∉ [quote, '\\', '\r', '\n'])
      (h : StringItems quote items) : StringItems quote (c :: items)

/-- Whether a string that is not closed ends between these items and what follows them: at the end
    of the text or of the line, or at a backslash that ends the text.  The last item may be an
    escaped carriage return, and a line feed behind it would belong to the escape. -/
def CutsString (items tail : Text) : Prop :=
  tail = [] ∨ tail = ['\\'] ∨ tail.head? = some '\r' ∨
    tail.head? = some '\n' ∧ items.getLast? ≠ some '\r'

/-- `StringBody quote text n`: behind an opening quote, the string at the start of the text is `n`
    characters long. -/
inductive StringBody (quote : Char) : Text → Nat → Prop
  | closed {items : Text} (h : StringItems quote items) (tail : Text) :
      StringBody quote (items ++ quote :: tail) (items.length + 1)
  | cut {items tail : Text} (h : StringItems quote items) (htail : CutsString items tail) :
      StringBody quote (items ++ tail) items.length

/-- `StringAt text n`: the string at the start of the text is `n` characters long; 0 if the text
    begins with no quote. -/
inductive StringAt : Text → Nat → Prop
  | string {quote : Char} {rest : Text} {n : Nat} (hquote : quote ∈ ['\'', '"'])
      (h : StringBody quote rest n) : StringAt (quote :: rest) (n + 1)
  | none {text : Text} (h : ∀ quote ∈ ['\'', '"'], text.head? ≠ some quote) : StringAt text 0

section Strings

variable {quote : Char} {items rest text : Text} {n : Nat}

/-- What is read before a string that is cut does not change where, unless it ends in a carriage
    return that a line feed follows. -/
theorem CutsString.append (h : CutsString items rest) (front : Text)
    (hfront : front.getLast? = some '\r' → (items ++ rest).head? ≠ some '\n') :
    CutsString (front ++ items) rest := by
  obtain h | h | h | ⟨hhead, hlast⟩ := h
  · exact .inl h
  · exact .inr (.inl h)
  · exact .inr (.inr (.inl h))
  · refine .inr (.inr (.inr ⟨hhead, ?_⟩))
    rw [List.getLast?_append]
    cases hitems : items.getLast? with
    | none =>
      rw [List.getLast?_eq_none_iff.1 hitems] at hfront
      exact fun hreturn => hfront hreturn hhead
    | some d => rwa [hitems] at hlast

theorem StringBody.escapedPair (h : StringBody quote text n) :
    StringBody quote ('\\' :: '\r' :: '\n' :: text) (n + 3) := by
  cases h with
  | closed h tail => exact .closed h.escapedPair tail
  | @cut items tail h htail =>
    exact .cut h.escapedPair (htail.append ['\\', '\r', '\n'] (by simp))

theorem StringBody.escape {e : Char} (h : StringBody quote text n)
    (he : e = '\r' → text.head? ≠ some '\n') : StringBody quote ('\\' :: e :: text) (n + 2) := by
  cases h with
  | closed h tail => exact .closed h.escape tail
  | @cut items tail h htail =>
    exact .cut h.escape (htail.append ['\\', e] (by simpa using he))

theorem StringBody.char {c : Char} (h : StringBody quote text n)
    (hc : c ∉ [quote, '\\', '\r', '\n']) : StringBody quote (c :: text) (n + 1) := by
  cases h with
  | closed h tail => exact .closed (h.char hc) tail
  | @cut items tail h htail =>
    refine .cut (h.char hc) (htail.append [c] fun hreturn => ?_)
    simp only [List.mem_cons, not_or] at hc
    exact absurd (Option.some.inj hreturn) hc.2.2.1

/-- A quote is a character that strings do not treat in another way. -/
theorem plain_of_quote (hquote : quote ∈ ['\'', '"']) :
    quote ≠ '\\' ∧ quote ≠ '\r' ∧ quote ≠ '\n' := by
  simp only [List.mem_cons, List.not_mem_nil, or_false] at hquote
  obtain rfl | rfl := hquote <;> decide

/-- What the scanner finds behind an opening quote is the body of a string. -/
theorem stringBody_stringBody (quote : Char) (text : Text) :
    StringBody quote text (Lexeme.stringBody quote text) := by
  fun_induction stringBody quote text with
  | case1 => exact .cut .nil (.inl rfl)
  | case2 => exact .cut .nil (.inr (.inl rfl))
  | case3 rest ih => exact ih.escapedPair
  | case4 e rest hpair ih =>
    refine ih.escape fun hreturn hfeed => ?_
    obtain ⟨more, hmore⟩ := List.head?_eq_some_iff.1 hfeed
    exact hpair more hreturn hmore
  | case5 rest => exact .closed .nil rest
  | case6 c rest _ _ _ _ hend =>
    simp only [Bool.or_eq_true, decide_eq_true_eq] at hend
    refine .cut .nil (.inr (.inr ?_))
    obtain rfl | rfl := hend
    · exact .inr ⟨rfl, by simp⟩
    · exact .inl rfl
  | case7 c rest hlone _ hescape hquote hend ih =>
    have hne := ne_of_tail hlone hescape
    refine ih.char ?_
    simp only [Bool.or_eq_true, decide_eq_true_eq, not_or] at hend
    simp [hquote, hne, hend]

theorem StringItems.head?_ne (h : StringItems quote items) : items.head? ≠ some '\n' := by
  cases h with
  | @char c items hc =>
    rintro ⟨⟩
    simp at hc
  | _ => simp

/-- An escape takes the character behind the backslash, and no more of it than that unless it is a
    carriage return with its line feed. -/
theorem stringBody_escape {e : Char} (he : e = '\r' → rest.head? ≠ some '\n') :
    Lexeme.stringBody quote ('\\' :: e :: rest) = Lexeme.stringBody quote rest + 2 := by
  rw [Lexeme.stringBody]
  rintro more hreturn rfl
  exact he hreturn rfl

/-- The scanner reads over all of the items, and on behind them. -/
theorem StringItems.stringBody_add (h : StringItems quote items)
    (hpair : items.getLast? = some '\r' → rest.head? ≠ some '\n') :
    Lexeme.stringBody quote (items ++ rest) = items.length + Lexeme.stringBody quote rest := by
  -- What is behind an item ends as the item and what is behind it do.
  have hbehind : ∀ front items : Text, items.getLast? = some '\r' →
      (front ++ items).getLast? = some '\r' := by
    intro front items hlast
    rw [List.getLast?_append, hlast]
    rfl
  induction h with
  | nil => simp
  | @escapedPair items _ ih =>
    have hitems := ih fun hlast => hpair (hbehind ['\\', '\r', '\n'] items hlast)
    simp only [List.cons_append, Lexeme.stringBody, hitems, List.length_cons]
    omega
  | @escape e items h ih =>
    have hitems := ih fun hlast => hpair (hbehind ['\\', e] items hlast)
    have he : e = '\r' → (items ++ rest).head? ≠ some '\n' := by
      rintro rfl
      cases items with
      | nil => exact hpair rfl
      | cons d items => exact h.head?_ne
    rw [List.cons_append, List.cons_append, stringBody_escape he, hitems]
    simp only [List.length_cons]
    omega
  | @char c items hc _ ih =>
    have hitems := ih fun hlast => hpair (hbehind [c] items hlast)
    simp only [List.mem_cons, List.not_mem_nil, or_false, not_or] at hc
    simp [Lexeme.stringBody, hc, hitems]
    omega

/-- The scanner finds the body of a string, wherever it ends. -/
theorem StringBody.eq (h : StringBody quote text n) (hquote : quote ∈ ['\'', '"']) :
    Lexeme.stringBody quote text = n := by
  have hplain := plain_of_quote hquote
  cases h with
  | closed h tail =>
    rw [h.stringBody_add fun _ => by simpa using hplain.2.2]
    simp [Lexeme.stringBody, hplain.1]
  | @cut items tail h htail =>
    have hnone : Lexeme.stringBody quote tail = 0 := by
      obtain rfl | rfl | hhead | ⟨hhead, -⟩ := htail
      · rfl
      · rfl
      all_goals
        obtain ⟨more, rfl⟩ := List.head?_eq_some_iff.1 hhead
        simp [Lexeme.stringBody, hplain.2.1.symm, hplain.2.2.symm]
    rw [h.stringBody_add, hnone, Nat.add_zero]
    intro hlast
    obtain rfl | rfl | hhead | ⟨-, hother⟩ := htail
    · simp
    · simp
    · simp [hhead]
    · exact absurd hlast hother

theorem stringAt_string (text : Text) : StringAt text (Lexeme.string text) := by
  fun_cases Lexeme.string text with
  | case1 quote rest hquote =>
    refine .string ?_ (stringBody_stringBody quote rest)
    simpa [isQuote] using hquote
  | case2 quote rest hquote =>
    refine .none fun other hother => ?_
    simp only [isQuote, Bool.or_eq_true, decide_eq_true_eq, not_or] at hquote
    simp only [List.mem_cons, List.not_mem_nil, or_false] at hother
    obtain rfl | rfl := hother <;> simp [hquote]
  | case3 => exact .none (by simp)

theorem StringAt.eq (h : StringAt text n) : Lexeme.string text = n := by
  cases h with
  | @string quote rest n hquote h =>
    have hisQuote : isQuote quote = true := by simpa [isQuote] using hquote
    rw [Lexeme.string, if_pos hisQuote, h.eq hquote]
  | none h =>
    fun_cases Lexeme.string text with
    | case1 quote rest hquote => exact absurd rfl (h quote (by simpa [isQuote] using hquote))
    | _ => rfl

end Strings

/-! ## Pieces of template literals -/

/-- What stands behind the first character of a piece, up to its end: characters, escapes, and
    dollar signs that open no substitution. -/
inductive TemplateItems : Text → Prop
  | nil : TemplateItems []
  | escape {e : Char} {items : Text} (h : TemplateItems items) :
      TemplateItems ('\\' :: e :: items)
  | dollar {items : Text} (hopen : items.head? ≠ some '{') (h : TemplateItems items) :
      TemplateItems ('$' :: items)
  | char {c : Char} {items : Text} (hc : c ∉ ['\x60', '\\', '$']) (h : TemplateItems items) :
      TemplateItems (c :: items)

/-- `TemplateBody text n ending`: behind its first character, the piece at the start of the text is
    `n` characters long, and ends in this way. -/
inductive TemplateBody : Text → Nat → PieceEnd → Prop
  | closed {items : Text} (h : TemplateItems items) (tail : Text) :
      TemplateBody (items ++ '\x60' :: tail) (items.length + 1) .closed
  | hole {items : Text} (h : TemplateItems items) (tail : Text) :
      TemplateBody (items ++ '$' :: '{' :: tail) (items.length + 2) .hole
  | cutOff {items tail : Text} (h : TemplateItems items) (htail : tail ∈ [[], ['\\']]) :
      TemplateBody (items ++ tail) items.length .cutOff

/-- `PieceAt text piece?`: the piece of a template literal at the start of the text; none if the
    text begins neither with a backtick nor with the brace that closes a substitution. -/
inductive PieceAt : Text → Option TemplatePiece → Prop
  | piece {opening : Char} {rest : Text} {n : Nat} {ending : PieceEnd}
      (hopening : opening ∈ ['\x60', '}']) (h : TemplateBody rest n ending) :
      PieceAt (opening :: rest) (some ⟨n + 1, ending⟩)
  | none {text : Text} (h : ∀ opening ∈ ['\x60', '}'], text.head? ≠ some opening) :
      PieceAt text none

section Templates

variable {items rest text : Text} {n : Nat} {ending : PieceEnd}

theorem TemplateBody.escape (h : TemplateBody text n ending) (e : Char) :
    TemplateBody ('\\' :: e :: text) (n + 2) ending := by
  cases h with
  | closed h tail => exact .closed h.escape tail
  | hole h tail => exact .hole h.escape tail
  | cutOff h htail => exact .cutOff h.escape htail

theorem TemplateBody.char {c : Char} (h : TemplateBody text n ending) (hc : c ∉ ['\x60', '\\'])
    (hopen : c = '$' → text.head? ≠ some '{') : TemplateBody (c :: text) (n + 1) ending := by
  -- A dollar sign and another character are items for different reasons.
  have hitem {items tail : Text} (h : TemplateItems items) (htext : text = items ++ tail) :
      TemplateItems (c :: items) := by
    by_cases hdollar : c = '$'
    · subst hdollar
      refine .dollar (fun hhead => hopen rfl ?_) h
      rw [htext, List.head?_append, hhead]
      rfl
    · refine .char ?_ h
      simpa [hdollar] using hc
  cases h with
  | closed h tail => exact .closed (hitem h rfl) tail
  | hole h tail => exact .hole (hitem h rfl) tail
  | cutOff h htail => exact .cutOff (hitem h rfl) htail

/-- What the scanner finds behind the first character of a piece is the body of one. -/
theorem templateBody_templateBody (text : Text) :
    TemplateBody text (templateBody text).length (templateBody text).ending := by
  fun_induction templateBody text with
  | case1 => exact .cutOff .nil (by simp)
  | case2 => exact .cutOff .nil (by simp)
  | case3 e rest ih => exact ih.escape e
  | case4 rest => exact .hole .nil rest
  | case5 rest => exact .closed .nil rest
  | case6 c rest hlone hescape hhole hquote ih =>
    refine ih.char ?_ fun hc => head?_ne_of_ne_cons fun more => hhole more hc
    simp [hquote, ne_of_tail hlone hescape]

/-- A dollar sign that opens no substitution is read like any other character. -/
theorem templateBody_char {c : Char} (hc : c ∉ ['\x60', '\\'])
    (hopen : c = '$' → rest.head? ≠ some '{') :
    templateBody (c :: rest) = (templateBody rest).after 1 := by
  simp only [List.mem_cons, List.not_mem_nil, or_false, not_or] at hc
  rw [templateBody, if_neg hc.1]
  · exact fun hescape => absurd hescape hc.2
  · exact fun e more hescape => absurd hescape hc.2
  · rintro more hdollar rfl
    exact hopen hdollar rfl

/-- The scanner reads over all of the items, and on behind them. -/
theorem TemplateItems.templateBody_add (h : TemplateItems items) (hopen : rest.head? ≠ some '{') :
    templateBody (items ++ rest) = (templateBody rest).after items.length := by
  induction h with
  | nil => rfl
  | escape _ ih => simp [templateBody, ih, TemplatePiece.after, Nat.add_assoc]
  | @dollar items hnext _ ih =>
    have hnext : (items ++ rest).head? ≠ some '{' := by
      cases items with
      | nil => exact hopen
      | cons d items => exact hnext
    rw [List.cons_append, templateBody_char (by decide) fun _ => hnext, ih]
    rfl
  | @char c items hc _ ih =>
    simp only [List.mem_cons, List.not_mem_nil, or_false, not_or] at hc
    rw [List.cons_append, templateBody_char (by simp [hc]) fun hdollar => absurd hdollar hc.2.2, ih]
    rfl

/-- The scanner finds the body of a piece, and how it ends. -/
theorem TemplateBody.eq (h : TemplateBody text n ending) : templateBody text = ⟨n, ending⟩ := by
  cases h with
  | closed h tail =>
    rw [h.templateBody_add (by simp)]
    simp [templateBody, TemplatePiece.after, Nat.add_comm]
  | hole h tail =>
    rw [h.templateBody_add (by simp)]
    simp [templateBody, TemplatePiece.after, Nat.add_comm]
  | cutOff h htail =>
    simp only [List.mem_cons, List.not_mem_nil, or_false] at htail
    obtain rfl | rfl := htail <;>
      (rw [h.templateBody_add (by simp)]; simp [templateBody, TemplatePiece.after])

theorem pieceAt_templatePiece? (text : Text) : PieceAt text (templatePiece? text) := by
  fun_cases templatePiece? text with
  | case1 c rest hopening => exact .piece (by simpa using hopening) (templateBody_templateBody rest)
  | case2 c rest hopening =>
    refine .none fun other hother => ?_
    rintro ⟨⟩
    exact hopening (by simpa using hother)
  | case3 => exact .none (by simp)

theorem PieceAt.eq {piece? : Option TemplatePiece} (h : PieceAt text piece?) :
    templatePiece? text = piece? := by
  cases h with
  | @piece opening rest n ending hopening h =>
    rw [templatePiece?, if_pos (by simpa using hopening), h.eq]
    rfl
  | none h =>
    fun_cases templatePiece? text with
    | case1 c rest hopening => exact absurd rfl (h c (by simpa using hopening))
    | _ => rfl

end Templates

/-- The scanners of strings and of template literals stop at the first end that is not escaped: what
    they find at the start of a text is the lexeme that the grammar puts there. -/
theorem quotations_iff (text : Text) :
    (∀ n, string text = n ↔ StringAt text n) ∧
      ∀ piece?, templatePiece? text = piece? ↔ PieceAt text piece? := by
  refine ⟨fun n => ⟨?_, StringAt.eq⟩, fun piece? => ⟨?_, PieceAt.eq⟩⟩
  · rintro rfl
    exact stringAt_string text
  · rintro rfl
    exact pieceAt_templatePiece? text

-- The backslash at the end of the text is left over.
example : templatePiece? ['}', '$', '\\', '{', '\\'] = some ⟨4, .cutOff⟩ := by decide

end SyntaxColor.Lexeme
