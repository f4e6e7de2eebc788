/-
  Lexemes cut out of their text.  A scanner looks ahead: for the digit behind a point, for what
  closes an escape, for the end of a line.  Still, what it finds does not depend on what is behind
  the lexeme.

  `x_take` for a scanner `x`: alone, the lexeme that it finds in a text is found as a whole.
  `Settled`: the parts of a number are found in every beginning of the text that holds them.
-/
import SyntaxColor.Proofs.Lexeme.Shape

namespace SyntaxColor

open Text Unicode

/-! ## Beginnings of a text -/

/-- To cut off the end brings no other character to the beginning. -/
theorem head?_take_ne {text : Text} {c : Char} (h : text.head? ≠ some c) (n : Nat) :
    (text.take n).head? ≠ some c := by
  cases n with
  | zero => simp
  | succ n =>
    rw [List.head?_take, if_neg (Nat.succ_ne_zero n)]
    exact h

theorem head?_ne_of_ne_cons {text : Text} {c : Char} (h : ∀ rest, text = c :: rest → False) :
    text.head? ≠ some c := by
  intro hhead
  obtain ⟨rest, htext⟩ := List.head?_eq_some_iff.1 hhead
  exact h rest htext

theorem take_ne_cons {text : Text} {c : Char} (h : ∀ rest, text = c :: rest → False) (n : Nat)
    (rest : Text) : text.take n = c :: rest → False := by
  intro hrest
  exact head?_take_ne (head?_ne_of_ne_cons h) n (by rw [hrest]; rfl)

/-- The scanner finds in every beginning of the text that holds the lexeme the same as in the
    text. -/
def Settled (scan : Text → Nat) (text : Text) : Prop :=
  ∀ n, scan text ≤ n → scan (text.take n) = scan text

section Settled

variable {scan : Text → Nat} {text rest : Text} {c : Char}

theorem settled_nil : Settled scan [] := by
  intro n _
  rw [List.take_nil]

theorem settled_of_zero (h : ∀ n, scan (text.take n) = 0) : Settled scan text := by
  intro n _
  have hall := h text.length
  rw [List.take_length] at hall
  rw [h, hall]

theorem settled_cons (hnil : scan [] = 0)
    (h : ∀ n, scan (c :: rest) ≤ n + 1 → scan (c :: rest.take n) = scan (c :: rest)) :
    Settled scan (c :: rest) := by
  intro n hn
  cases n with
  | zero =>
    rw [List.take_zero, hnil]
    omega
  | succ n => exact h n hn

theorem Settled.alone (h : Settled scan text) : scan (text.take (scan text)) = scan text :=
  h _ (Nat.le_refl _)

end Settled

theorem settled_runLength (p : Char → Bool) (text : Text) : Settled (runLength p) text := by
  induction text with
  | nil => exact settled_nil
  | cons c rest ih =>
    refine settled_cons rfl fun n hn => ?_
    cases hc : p c with
    | false => simp [runLength, hc]
    | true =>
      have hrest : runLength p rest ≤ n := by simpa [runLength, hc] using hn
      have htake := ih n hrest
      simpa [runLength, hc] using htake

namespace Lexeme

/-! ## White space and comments -/

theorem whitespace_take (text : Text) :
    whitespace (text.take (whitespace text)) = whitespace text :=
  (settled_runLength isBlank text).alone

theorem lineBreak_take (text : Text) : lineBreak (text.take (lineBreak text)) = lineBreak text := by
  unfold lineBreak
  fun_cases lineBreakLength text with
  | case1 => rfl
  | case2 c rest _ hc => simp [lineBreakLength, hc]
  | case3 => rfl
  | case4 => rfl

/-- The rest of a line that begins with these two characters. -/
theorem lineLength_take {c d : Char} (hc : isLineEnd c = false) (hd : isLineEnd d = false)
    (rest : Text) : ∃ line, (c :: d :: rest).take (lineLength (c :: d :: rest)) = c :: d :: line ∧
      lineLength (c :: d :: line) = lineLength (c :: d :: rest) := by
  refine ⟨rest.take (lineLength rest), ?_, ?_⟩
  · simp [lineLength, runLength, hc, hd]
  · have := (settled_runLength (fun c => !isLineEnd c) rest).alone
    simpa [lineLength, runLength, hc, hd] using this

theorem hashbang_take (text : Text) : hashbang (text.take (hashbang text)) = hashbang text := by
  fun_cases hashbang text with
  | case1 rest =>
    obtain ⟨line, htake, hline⟩ := lineLength_take (c := '#') (d := '!') rfl rfl rest
    rw [htake]
    exact hline
  | case2 => rfl

theorem lineComment_take (text : Text) :
    lineComment (text.take (lineComment text)) = lineComment text := by
  by_cases h : lineComment text = 0
  · rw [h]
    rfl
  · obtain ⟨rest, rfl⟩ := slashes_of_lineComment h
    obtain ⟨line, htake, hline⟩ := lineLength_take (c := '/') (d := '/') rfl rfl rest
    exact (congrArg lineComment htake).trans hline

theorem throughCommentEnd_take (text : Text) :
    throughCommentEnd (text.take (throughCommentEnd text)) = throughCommentEnd text := by
  fun_induction throughCommentEnd text with
  | case1 => rfl
  | case2 => rfl
  | case3 c rest hend ih =>
    rw [List.take_succ_cons, throughCommentEnd, ih]
    exact fun more hc => take_ne_cons (fun rest => hend rest hc) _ more

theorem blockComment_take (text : Text) :
    blockComment (text.take (blockComment text)) = blockComment text := by
  fun_cases blockComment text with
  | case1 rest => simp [blockComment, throughCommentEnd_take]
  | case2 => rfl

/-! ## Names -/

theorem nameParts_take (text : Text) :
    nameParts 0 (text.take (nameParts 0 text)) = nameParts 0 text := by
  -- An escape looks ahead for its last digit or brace; the parts that were read have both.
  obtain ⟨parts, hparts, htake⟩ := exists_nameParts 0 text
  rw [List.take_zero, List.nil_append] at htake
  have hlength := congrArg List.length htake
  rw [List.length_take_of_le (nameParts_le 0 text)] at hlength
  have hall := hparts.nameParts_add []
  rw [List.append_nil] at hall
  rw [htake, hall, hlength]
  rfl

theorem plainName_take (text : Text) : plainName (text.take (plainName text)) = plainName text := by
  fun_cases plainName text with
  | case1 c rest hc =>
    have hparts := nameParts_take (c :: rest)
    cases hlength : nameParts 0 (c :: rest) with
    | zero => rfl
    | succ n =>
      rw [hlength] at hparts
      simpa [plainName, hc] using hparts
  | case2 => rfl
  | case3 => rfl

theorem name_take (text : Text) : name (text.take (name text)) = name text := by
  fun_cases name text with
  | case1 => rfl
  | case2 rest hrest => simp [name, plainName_take, hrest]
  | case3 text hhash =>
    rw [name, plainName_take]
    exact take_ne_cons hhash _

/-! ## Numbers -/

section Digits

variable {isDigit : Char → Bool}

/-- If the underscore were a digit itself, one that is cut off from its digit would count. -/
theorem settled_moreDigits (hunderscore : isDigit '_' = false) (text : Text) :
    Settled (moreDigits isDigit) text := by
  fun_induction moreDigits isDigit text with
  | case1 d rest hd ih =>
    refine settled_cons rfl fun n hn => ?_
    have hlength : moreDigits isDigit ('_' :: d :: rest) = moreDigits isDigit rest + 2 := by
      simp [moreDigits, hd]
    cases n with
    | zero => omega
    | succ n =>
      rw [List.take_succ_cons, hlength, moreDigits, if_pos hd, ih n (by omega)]
  | case2 d rest hd =>
    refine settled_cons rfl fun n _ => ?_
    cases n with
    | zero => simp [moreDigits, hunderscore, hd]
    | succ n => simp [moreDigits, hd]
  | case3 d rest hmark hd ih =>
    refine settled_cons rfl fun n hn => ?_
    have hne : d ≠ '_' := by
      rintro rfl
      simp [hunderscore] at hd
    have hlength : moreDigits isDigit (d :: rest) = moreDigits isDigit rest + 1 := by
      simp [moreDigits, hd]
    rw [hlength] at hn ⊢
    simp [moreDigits, hne, hd, ih n (by omega)]
  | case4 d rest hmark hd =>
    refine settled_of_zero fun n => ?_
    cases n with
    | zero => rfl
    | succ n =>
      cases rest with
      | nil => simp [moreDigits, hd]
      | cons e rest =>
        have hne : d ≠ '_' := fun heq => hmark e rest heq rfl
        simp [moreDigits, hne, hd]
  | case5 => exact settled_nil

theorem settled_digits (hunderscore : isDigit '_' = false) (text : Text) :
    Settled (digits isDigit) text := by
  fun_cases digits isDigit text with
  | case1 d rest hd =>
    refine settled_cons rfl fun n hn => ?_
    have hlength : digits isDigit (d :: rest) = moreDigits isDigit rest + 1 := by
      simp [digits, hd]
    rw [hlength] at hn ⊢
    rw [digits, if_pos hd, settled_moreDigits hunderscore rest n (by omega)]
  | case2 d rest hd => exact settled_cons rfl fun n _ => by simp [digits, hd]
  | case3 => exact settled_nil

end Digits

theorem settled_bigMark (text : Text) : Settled bigMark text := by
  fun_cases bigMark text with
  | case1 => exact settled_cons rfl fun n _ => rfl
  | case2 text hmark =>
    exact settled_of_zero fun n => bigMark_eq_zero (head?_take_ne (head?_ne_of_ne_cons hmark) n)

theorem settled_exponentSign (text : Text) : Settled exponentSign text := by
  fun_cases exponentSign text with
  | case1 | case2 => exact settled_cons rfl fun n _ => rfl
  | case3 text hplus hminus =>
    refine settled_of_zero fun n => ?_
    have hplus := head?_take_ne (head?_ne_of_ne_cons hplus) n
    have hminus := head?_take_ne (head?_ne_of_ne_cons hminus) n
    generalize text.take n = beginning at hplus hminus
    fun_cases exponentSign beginning <;> simp_all

theorem settled_fractionPart (text : Text) : Settled fractionPart text := by
  fun_cases fractionPart text with
  | case1 rest =>
    refine settled_cons rfl fun n hn => ?_
    rw [fractionPart] at hn ⊢
    rw [fractionPart, settled_digits rfl rest n (by omega)]
  | case2 text hpoint =>
    exact settled_of_zero fun n =>
      fractionPart_eq_zero (head?_take_ne (head?_ne_of_ne_cons hpoint) n)

/-- Only an integer part that there is: `07` has none, though its beginning `0` has. -/
theorem settled_integerPart {text : Text} (h : integerPart text ≠ 0) : Settled integerPart text := by
  intro n hn
  by_cases hzero : text.head? = some '0'
  · obtain ⟨rest, rfl⟩ := List.head?_eq_some_iff.1 hzero
    -- The condition is on the whole run of digits, so that it may not be cut.
    have hlength := (integerPart_zero_of_ne h).1
    have hrun : (('0' :: rest).take n).takeWhile Char.isDigit =
        ('0' :: rest).takeWhile Char.isDigit := by
      rw [← List.take_takeWhile, List.take_of_length_le]
      exact hlength ▸ hn
    cases n with
    | zero => exact absurd (Nat.le_zero.1 hn) h
    | succ n =>
      rw [List.take_succ_cons] at hrun ⊢
      rw [integerPart_zero, integerPart_zero, hrun]
  · have hhead := head?_take_ne hzero n
    rw [integerPart_eq_digits hzero] at hn ⊢
    rw [integerPart_eq_digits hhead]
    exact settled_digits rfl text n hn

theorem settled_mantissa {text : Text} (h : mantissa text ≠ 0) : Settled mantissa text := by
  intro n hn
  by_cases hinteger : integerPart text = 0
  · -- No beginning of a point and digits has an integer part.
    obtain ⟨hmantissa, rest, rfl, -⟩ := mantissa_of_no_integer h hinteger
    have hfraction := settled_fractionPart ('.' :: rest) n (hmantissa ▸ hn)
    have hnone : integerPart (('.' :: rest).take n) = 0 := by cases n <;> rfl
    rw [mantissa, hnone, hfraction, mantissa, hinteger]
  · rw [mantissa_of_integer hinteger] at hn ⊢
    have hsame := settled_integerPart hinteger n (by omega)
    rw [mantissa_of_integer (by rwa [hsame]), hsame, List.drop_take,
      settled_fractionPart (text.drop (integerPart text)) _ (by omega)]

theorem exponentPart_take (text : Text) :
    exponentPart (text.take (exponentPart text)) = exponentPart text := by
  fun_cases exponentPart text with
  | case2 e rest he sign n hdigits =>
    have hsign : exponentSign (rest.take (sign + (n + 1))) = sign :=
      settled_exponentSign rest _ (by show sign ≤ _; omega)
    have hsame : digits Char.isDigit ((rest.drop sign).take (n + 1)) = n + 1 := by
      rw [← Nat.succ_eq_add_one, ← hdigits]
      exact (settled_digits rfl (rest.drop sign)).alone
    have hlength : 1 + sign + (n + 1) = sign + (n + 1) + 1 := by omega
    rw [hlength, List.take_succ_cons, exponentPart, if_pos he]
    dsimp only
    rw [hsign, List.drop_take, Nat.add_sub_cancel_left, hsame]
    exact hlength
  | _ => rfl

theorem decimal_take (text : Text) : decimal (text.take (decimal text)) = decimal text := by
  by_cases hmantissa : mantissa text = 0
  · have hdecimal : decimal text = 0 := by rw [decimal, hmantissa]
    rw [hdecimal]
    rfl
  · have hsame := settled_mantissa hmantissa (decimal text) (mantissa_le_decimal text)
    rw [decimal_of_mantissa (by rwa [hsame]), hsame, decimal_of_mantissa hmantissa,
      List.drop_take, Nat.add_sub_cancel_left, exponentPart_take]

theorem zeroOctal_take (text : Text) : zeroOctal (text.take (zeroOctal text)) = zeroOctal text := by
  fun_cases zeroOctal text with
  | case2 rest n hn =>
    have hrun := (settled_runLength isOctalDigit rest).alone
    simp [zeroOctal, hrun, n, hn]
  | _ => rfl

theorem bigInteger_take (text : Text) :
    bigInteger (text.take (bigInteger text)) = bigInteger text := by
  by_cases h : bigInteger text = 0
  · rw [h]
    rfl
  obtain ⟨rest, rfl⟩ | ⟨hzero, hdigits, ⟨rest, hrest⟩, hbig⟩ := cases_of_bigInteger h
  · rfl
  · have hhead := head?_take_ne hzero (digits Char.isDigit text + 1)
    have hsame := settled_digits rfl text (digits Char.isDigit text + 1) (Nat.le_succ _)
    have hmark : bigMark (('n' :: rest).take 1) ≠ 0 := Nat.one_ne_zero
    rw [hbig, bigInteger_eq_of_head?_ne hhead, positiveDigits_eq_digits hhead, hsame,
      List.drop_take, Nat.add_sub_cancel_left, hrest, if_pos ⟨hdigits, hmark⟩]

theorem radixInteger_take (text : Text) :
    radixInteger (text.take (radixInteger text)) = radixInteger text := by
  fun_cases radixInteger text with
  | case2 letter rest isDigit hradix n hdigits =>
    have hunderscore : isDigit '_' = false := by
      revert hradix
      fun_cases radixDigit? letter with
      | case7 => exact fun h => absurd h (by simp)
      | _ => rintro ⟨⟩; rfl
    generalize hmark : bigMark (rest.drop (n + 1)) = mark
    have hsame : digits isDigit (rest.take (n + 1 + mark)) = n + 1 := by
      rw [settled_digits hunderscore rest _ (by omega), hdigits]
    have hlength : 2 + (n + 1) + mark = n + 1 + mark + 1 + 1 := by omega
    rw [hlength, List.take_succ_cons, List.take_succ_cons, radixInteger, hradix]
    dsimp only
    rw [hsame]
    dsimp only
    rw [List.drop_take, Nat.add_sub_cancel_left, ← hmark, (settled_bigMark _).alone, hmark, hlength]
  | _ => rfl

/-- The ways to write a number do not get in each other's way: none can be longer than the
    text that is left. -/
theorem number_take (text : Text) : number (text.take (number text)) = number text := by
  have hle := number_le (text.take (number text))
  rw [List.length_take_of_le (number_le text)] at hle
  refine Nat.le_antisymm hle ?_
  have hlongest := number_mem text
  have hways := le_number (text.take (number text))
  simp only [List.mem_cons, List.not_mem_nil, or_false] at hlongest
  generalize number text = n at hlongest hways ⊢
  obtain rfl | rfl | rfl | rfl := hlongest
  · exact hways _ (by simp [radixInteger_take])
  · exact hways _ (by simp [bigInteger_take])
  · exact hways _ (by simp [decimal_take])
  · exact hways _ (by simp [zeroOctal_take])

/-! ## Punctuators -/

theorem punctuator_of_mem : ∀ mark ∈ punctuators, punctuator mark = mark.length := by decide

theorem punctuator_take (text : Text) :
    punctuator (text.take (punctuator text)) = punctuator text := by
  by_cases h : punctuator text = 0
  · rw [h]
    rfl
  · rw [punctuator_of_mem _ (take_punctuator_mem h)]
    exact List.length_take_of_le (punctuator_le text)

/-! ## Quoted lexemes -/

/-- The scanners read a backslash first, be there a character behind it or not. -/
theorem ne_of_tail {c d : Char} {rest : Text} (hnil : c = d → rest = [] → False)
    (hcons : ∀ e more, c = d → rest = e :: more → False) : c ≠ d := by
  intro hc
  cases rest with
  | nil => exact hnil hc rfl
  | cons e more => exact hcons e more hc rfl

theorem stringBody_take (quote : Char) (text : Text) :
    stringBody quote (text.take (stringBody quote text)) = stringBody quote text := by
  fun_induction stringBody quote text with
  | case1 => rfl
  | case2 => rfl
  | case3 rest ih => simp [stringBody, ih]
  | case4 c rest hbreak ih =>
    rw [List.take_succ_cons, List.take_succ_cons, stringBody, ih]
    exact fun more hc => take_ne_cons (fun rest => hbreak rest hc) _ more
  | case5 rest hlone _ hescape =>
    have hne := ne_of_tail hlone hescape
    simp [stringBody, hne]
  | case6 => rfl
  | case7 c rest hlone _ hescape hquote hend ih =>
    have hne := ne_of_tail hlone hescape
    simp only [Bool.or_eq_true, decide_eq_true_eq] at hend
    simp [stringBody, hne, hquote, hend, ih]

theorem string_take (text : Text) : string (text.take (string text)) = string text := by
  fun_cases string text with
  | case1 quote rest hquote => simp [string, hquote, stringBody_take]
  | _ => rfl

/-- Also the ending of the piece is found again: a piece that the text cuts off is cut off. -/
theorem templateBody_take (text : Text) :
    templateBody (text.take (templateBody text).length) = templateBody text := by
  fun_induction templateBody text with
  | case1 => rfl
  | case2 => rfl
  | case3 c rest ih => simp [templateBody, TemplatePiece.after, ih]
  | case4 rest => rfl
  | case5 => rfl
  | case6 c rest hlone hescape hhole hquote ih =>
    have hne := ne_of_tail hlone hescape
    have hopen (more : Text) (hc : c = '$') :
        rest.take (templateBody rest).length = '{' :: more → False :=
      take_ne_cons (fun rest => hhole rest hc) _ more
    simp [templateBody, TemplatePiece.after, hne, hquote, ih]

/-! ## Regular expressions -/

theorem regexBody_take (inClass : Bool) (text : Text) :
    regexBody inClass (text.take (regexBody inClass text)) = regexBody inClass text := by
  fun_induction regexBody inClass text with
  | case1 => rfl
  | case2 => rfl
  | case3 inClass e rest he => rfl
  | case4 inClass e rest he ih => simp [regexBody, he, ih]
  | case5 inClass c rest _ _ hend => rfl
  | case6 inClass c rest hlone hescape hend hclose =>
    have hne := ne_of_tail hlone hescape
    have hflags := (settled_runLength continuesName rest).alone
    simp [regexBody, hne, hend, hclose, hflags]
  | case7 inClass rest _ _ hend _ ih => simp [regexBody, hend, ih]
  | case8 inClass rest _ _ hend _ _ ih => simp [regexBody, hend, ih]
  | case9 inClass c rest hlone hescape hend hclose hopen hclass ih =>
    have hne := ne_of_tail hlone hescape
    simp [regexBody, hne, hend, hclose, hopen, hclass, ih]

theorem regex_take (text : Text) : regex (text.take (regex text)) = regex text := by
  fun_cases regex text with
  | case3 rest hslash hstar =>
    have hslash := head?_take_ne (head?_ne_of_ne_cons hslash) (regexBody false rest)
    have hstar := head?_take_ne (head?_ne_of_ne_cons hstar) (regexBody false rest)
    have hregex := mt regex_slash_eq_zero_iff.1 (not_or.2 ⟨hslash, hstar⟩)
    rw [List.take_succ_cons, regex_slash hregex, regexBody_take]
  | _ => rfl

/-! ## JSX -/

theorem jsxName_take (text : Text) : jsxName (text.take (jsxName text)) = jsxName text := by
  have hrun := (settled_runLength isJsxNamePart text).alone
  fun_cases jsxName text with
  | case1 c rest hc =>
    cases hlength : Text.runLength isJsxNamePart (c :: rest) with
    | zero => rfl
    | succ n =>
      rw [hlength] at hrun
      simpa [jsxName, hc] using hrun
  | _ => rfl

theorem throughQuote_take (quote : Char) (text : Text) :
    throughQuote quote (text.take (throughQuote quote text)) = throughQuote quote text := by
  fun_induction throughQuote quote text with
  | case1 => rfl
  | case2 rest => simp [throughQuote]
  | case3 c rest hc ih => simp [throughQuote, hc, ih]

theorem jsxValue_take (text : Text) : jsxValue (text.take (jsxValue text)) = jsxValue text := by
  fun_cases jsxValue text with
  | case1 quote rest hquote => simp [jsxValue, hquote, throughQuote_take]
  | _ => rfl

theorem jsxContent_take (text : Text) :
    jsxContent (text.take (jsxContent text)) = jsxContent text :=
  (settled_runLength (fun c => !isJsxDelimiter c) text).alone

end Lexeme
end SyntaxColor
