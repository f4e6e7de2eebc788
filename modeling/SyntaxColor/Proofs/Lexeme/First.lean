/-
  The first characters of lexemes, by which a scanner tells at once that it finds nothing, and
  texts at the start of which one scanner or another finds something.

  `le_number`: the way to write a number that comes first reads no less than any other.
-/
import SyntaxColor.Proofs.Lexeme.Character
import SyntaxColor.Proofs.Lexeme.Punctuator

namespace SyntaxColor.Lexeme

open Unicode

/-! ## What begins no lexeme -/

theorem nameEscape_eq_zero {text : Text} (h : text.head? ≠ some '\\') : nameEscape text = 0 := by
  fun_cases nameEscape text <;> simp_all

section NoZero

variable {text : Text} (h : text.head? ≠ some '0')
include h

theorem radixInteger_eq_zero : radixInteger text = 0 := by
  fun_cases radixInteger text <;> simp_all

theorem zeroOctal_eq_zero : zeroOctal text = 0 := by
  fun_cases zeroOctal text <;> simp_all

theorem positiveDigits_eq_digits : positiveDigits text = digits Char.isDigit text := by
  unfold positiveDigits
  split
  · simp at h
  · rfl

theorem integerPart_eq_digits : integerPart text = digits Char.isDigit text := by
  unfold integerPart
  split
  · simp at h
  · exact positiveDigits_eq_digits h

theorem bigInteger_eq_of_head?_ne : bigInteger text =
    if positiveDigits text ≠ 0 ∧ bigMark (text.drop (positiveDigits text)) ≠ 0 then
      positiveDigits text + 1
    else 0 := by
  unfold bigInteger
  split
  · simp at h
  · rfl

theorem bigInteger_eq_zero (hmark : bigMark (text.drop (digits Char.isDigit text)) = 0) :
    bigInteger text = 0 := by
  simp [bigInteger_eq_of_head?_ne h, positiveDigits_eq_digits h, hmark]

end NoZero

theorem bigMark_eq_zero {text : Text} (h : text.head? ≠ some 'n') : bigMark text = 0 := by
  fun_cases bigMark text <;> simp_all

theorem fractionPart_eq_zero {text : Text} (h : text.head? ≠ some '.') :
    fractionPart text = 0 := by
  fun_cases fractionPart text <;> simp_all

theorem exponentPart_eq_zero {text : Text} (he : text.head? ≠ some 'e')
    (hE : text.head? ≠ some 'E') : exponentPart text = 0 := by
  fun_cases exponentPart text <;> simp_all

theorem punctuator_eq_zero {c : Char} (h : ∀ mark ∈ punctuators, mark.head? ≠ some c)
    (rest : Text) : punctuator (c :: rest) = 0 := by
  refine Decidable.byContradiction fun hne => h _ (take_punctuator_mem hne) ?_
  rw [List.head?_take, if_neg hne]
  rfl

/-! ## What a lexeme begins with -/

theorem head?_of_regex {text : Text} (h : regex text ≠ 0) : text.head? = some '/' := by
  revert h
  fun_cases regex text with
  | case4 => intro h; exact absurd rfl h
  | _ => intro _; rfl

/-- The first character is of the class that the scanner asks for, if it finds something. -/
theorem head?_of_ne_zero {p : Char → Bool} {scanner : Text → Nat} (hnil : scanner [] = 0)
    (hcons : ∀ c rest, p c = false → scanner (c :: rest) = 0) {text : Text}
    (h : scanner text ≠ 0) : ∃ c, text.head? = some c ∧ p c = true := by
  cases text with
  | nil => exact absurd hnil h
  | cons c rest =>
    cases hc : p c with
    | true => exact ⟨c, rfl, hc⟩
    | false => exact absurd (hcons c rest hc) h

theorem head?_of_string {text : Text} (h : string text ≠ 0) :
    ∃ quote, text.head? = some quote ∧ isQuote quote = true :=
  head?_of_ne_zero rfl (fun c rest hc => by simp [string, hc]) h

theorem head?_of_name {text : Text} (h : name text ≠ 0) :
    ∃ c, text.head? = some c ∧ (beginsName c = true ∨ c ∈ ['\\', '#']) := by
  revert h
  fun_cases name text with
  | case1 => exact fun h => absurd rfl h
  | case2 rest _ => exact fun _ => ⟨'#', rfl, .inr (by simp)⟩
  | case3 =>
    fun_cases plainName text with
    | case1 c rest hc =>
      intro _
      refine ⟨c, rfl, ?_⟩
      simp only [Bool.or_eq_true, decide_eq_true_eq] at hc
      obtain hc | hc := hc
      · exact .inl hc
      · exact .inr (by simp [hc])
    | case2 => exact fun h => absurd rfl h
    | case3 => exact fun h => absurd rfl h

theorem head?_of_jsxName {text : Text} (h : jsxName text ≠ 0) :
    ∃ c, text.head? = some c ∧ beginsName c = true :=
  head?_of_ne_zero rfl (fun c rest hc => by simp [jsxName, hc]) h

theorem head?_of_jsxValue {text : Text} (h : jsxValue text ≠ 0) :
    ∃ quote, text.head? = some quote ∧ isQuote quote = true :=
  head?_of_ne_zero rfl (fun c rest hc => by simp [jsxValue, hc]) h

theorem slashes_of_lineComment {text : Text} (h : lineComment text ≠ 0) :
    ∃ rest, text = '/' :: '/' :: rest := by
  revert h
  fun_cases lineComment text with
  | case1 rest => exact fun _ => ⟨rest, rfl⟩
  | case2 => exact fun h => absurd rfl h

theorem head?_of_runLength {p : Char → Bool} {text : Text} (h : text.runLength p ≠ 0) :
    ∃ c, text.head? = some c ∧ p c = true :=
  head?_of_ne_zero rfl (fun c rest hc => by simp [Text.runLength, hc]) h

/-! ## The ways to write a number -/

theorem integerPart_zero (rest : Text) : integerPart ('0' :: rest) =
    if (('0' :: rest).takeWhile Char.isDigit).length = 1 ||
        (('0' :: rest).takeWhile Char.isDigit).any (fun d => d = '8' || d = '9') then
      (('0' :: rest).takeWhile Char.isDigit).length
    else 0 :=
  rfl

/-- An integer part with a leading zero is a whole run of digits: the zero alone, or one with an 8 or
    a 9. -/
theorem integerPart_zero_of_ne {rest : Text} (h : integerPart ('0' :: rest) ≠ 0) :
    integerPart ('0' :: rest) = (('0' :: rest).takeWhile Char.isDigit).length ∧
      (rest.takeWhile Char.isDigit = [] ∨
        '8' ∈ rest.takeWhile Char.isDigit ∨ '9' ∈ rest.takeWhile Char.isDigit) := by
  have hcons : ('0' :: rest).takeWhile Char.isDigit = '0' :: rest.takeWhile Char.isDigit := by simp
  rw [integerPart_zero] at h ⊢
  have hrun := Decidable.byContradiction fun hno => h (if_neg hno)
  refine ⟨if_pos hrun, ?_⟩
  rw [hcons] at hrun
  simp only [Bool.or_eq_true, decide_eq_true_eq] at hrun
  obtain hone | hany := hrun
  · exact .inl (by simpa using hone)
  · obtain ⟨d, hd, hoctal⟩ := List.any_eq_true.1 hany
    simp only [Bool.or_eq_true, decide_eq_true_eq] at hoctal
    obtain rfl | rfl := hoctal
    · exact .inr (.inl (by simpa using hd))
    · exact .inr (.inr (by simpa using hd))

theorem bigInteger_zero {rest : Text} (h : rest.head? ≠ some 'n') :
    bigInteger ('0' :: rest) = 0 := by
  unfold bigInteger
  split
  · next htext =>
    rw [(List.cons.inj htext).2] at h
    exact absurd rfl h
  · rfl

theorem mantissa_of_integer {text : Text} (h : integerPart text ≠ 0) :
    mantissa text = integerPart text + fractionPart (text.drop (integerPart text)) := by
  obtain ⟨n, hn⟩ := Nat.exists_eq_succ_of_ne_zero h
  rw [mantissa, hn]

/-- Without an integer part there is a point, with digits behind it. -/
theorem mantissa_of_no_integer {text : Text} (h : mantissa text ≠ 0)
    (hnone : integerPart text = 0) : mantissa text = fractionPart text ∧
      ∃ rest, text = '.' :: rest ∧ digits Char.isDigit rest ≠ 0 := by
  rw [mantissa, hnone] at h ⊢
  have hlong : ¬ fractionPart text ≤ 1 := fun hle => h (if_pos hle)
  have hpoint : text.head? = some '.' :=
    Decidable.byContradiction fun hne => hlong (by simp [fractionPart_eq_zero hne])
  obtain ⟨rest, rfl⟩ := List.head?_eq_some_iff.1 hpoint
  refine ⟨if_neg hlong, rest, rfl, fun hdigits => hlong ?_⟩
  simp [fractionPart, hdigits]

theorem decimal_of_mantissa {text : Text} (h : mantissa text ≠ 0) :
    decimal text = mantissa text + exponentPart (text.drop (mantissa text)) := by
  obtain ⟨n, hn⟩ := Nat.exists_eq_succ_of_ne_zero h
  rw [decimal, hn]

/-- Behind a zero and a character that continues no decimal number, that is the zero alone. -/
theorem decimal_zero {c : Char} (hdigit : c.isDigit = false) (hc : c ∉ ['.', 'e', 'E'])
    (rest : Text) : decimal ('0' :: c :: rest) = 1 := by
  simp only [List.mem_cons, List.not_mem_nil, or_false, not_or] at hc
  have hinteger : integerPart ('0' :: c :: rest) = 1 := by simp [integerPart_zero, hdigit]
  have hfraction : fractionPart (c :: rest) = 0 := fractionPart_eq_zero (by simp [hc])
  have hmantissa : mantissa ('0' :: c :: rest) = 1 := by simp [mantissa, hinteger, hfraction]
  have hexponent : exponentPart (c :: rest) = 0 :=
    exponentPart_eq_zero (by simp [hc]) (by simp [hc])
  simp [decimal, hmantissa, hexponent]

theorem zeroOctal_zero {c : Char} (hc : isOctalDigit c = false) (rest : Text) :
    zeroOctal ('0' :: c :: rest) = 0 := by
  simp [zeroOctal, Text.runLength, hc]

theorem letter_of_radixInteger {text : Text} (h : radixInteger text ≠ 0) : ∃ letter rest,
    text = '0' :: letter :: rest ∧ letter ∈ ['x', 'X', 'o', 'O', 'b', 'B'] := by
  revert h
  fun_cases radixInteger text with
  | case2 letter rest isDigit hradix =>
    intro _
    refine ⟨letter, rest, rfl, ?_⟩
    revert hradix
    fun_cases radixDigit? letter <;> simp
  | _ => exact fun h => absurd rfl h

/-- Where a letter announces other digits, the other ways read no more than the zero. -/
theorem ways_of_radixInteger {text : Text} (h : radixInteger text ≠ 0) :
    bigInteger text = 0 ∧ decimal text = 1 ∧ zeroOctal text = 0 := by
  obtain ⟨letter, rest, rfl, hletter⟩ := letter_of_radixInteger h
  obtain ⟨hbig, hdigit, hpoint, hoctal⟩ : letter ≠ 'n' ∧ letter.isDigit = false ∧
      letter ∉ ['.', 'e', 'E'] ∧ isOctalDigit letter = false := by
    simp only [List.mem_cons, List.not_mem_nil, or_false] at hletter
    obtain rfl | rfl | rfl | rfl | rfl | rfl := hletter <;> decide
  exact ⟨bigInteger_zero (by simpa using hbig), decimal_zero hdigit hpoint rest,
    zeroOctal_zero hoctal rest⟩

/-- A big integer is a zero, or digits without a leading zero, before its mark. -/
theorem cases_of_bigInteger {text : Text} (h : bigInteger text ≠ 0) :
    (∃ rest, text = '0' :: 'n' :: rest) ∨
      text.head? ≠ some '0' ∧ digits Char.isDigit text ≠ 0 ∧
        (∃ rest, text.drop (digits Char.isDigit text) = 'n' :: rest) ∧
        bigInteger text = digits Char.isDigit text + 1 := by
  by_cases hzero : text.head? = some '0'
  · obtain ⟨rest, rfl⟩ := List.head?_eq_some_iff.1 hzero
    have hmark : rest.head? = some 'n' :=
      Decidable.byContradiction fun hne => h (bigInteger_zero hne)
    obtain ⟨rest, rfl⟩ := List.head?_eq_some_iff.1 hmark
    exact .inl ⟨rest, rfl⟩
  · rw [bigInteger_eq_of_head?_ne hzero, positiveDigits_eq_digits hzero] at h ⊢
    obtain ⟨hdigits, hmark⟩ := Decidable.byContradiction fun hno => h (if_neg hno)
    have hn : (text.drop (digits Char.isDigit text)).head? = some 'n' :=
      Decidable.byContradiction fun hne => hmark (bigMark_eq_zero hne)
    exact .inr ⟨hzero, hdigits, List.head?_eq_some_iff.1 hn, if_pos ⟨hdigits, hmark⟩⟩

/-- Where there is a big integer, a decimal number is shorter by its mark. -/
theorem ways_of_bigInteger {text : Text} (h : bigInteger text ≠ 0) :
    decimal text + 1 = bigInteger text ∧ zeroOctal text = 0 := by
  obtain ⟨rest, rfl⟩ | ⟨hzero, hdigits, ⟨rest, hrest⟩, hbig⟩ := cases_of_bigInteger h
  · refine ⟨?_, zeroOctal_zero rfl rest⟩
    rw [decimal_zero rfl (by simp) rest]
    rfl
  · refine ⟨?_, zeroOctal_eq_zero hzero⟩
    have hinteger := integerPart_eq_digits hzero
    have hmantissa : mantissa text = digits Char.isDigit text := by
      rw [mantissa_of_integer (by rwa [hinteger]), hinteger, hrest,
        fractionPart_eq_zero (by simp), Nat.add_zero]
    rw [hbig, decimal_of_mantissa (by rwa [hmantissa]), hmantissa, hrest,
      exponentPart_eq_zero (by simp) (by simp), Nat.add_zero]

theorem integerPart_le_mantissa (text : Text) : integerPart text ≤ mantissa text := by
  unfold mantissa
  split <;> omega

theorem mantissa_le_decimal (text : Text) : mantissa text ≤ decimal text := by
  unfold decimal
  split <;> omega

/-- Where there is a decimal number with a leading zero, an octal one is no longer. -/
theorem zeroOctal_le_decimal {text : Text} (h : decimal text ≠ 0) :
    zeroOctal text ≤ decimal text := by
  by_cases hzero : text.head? = some '0'
  · obtain ⟨rest, rfl⟩ := List.head?_eq_some_iff.1 hzero
    have hinteger : integerPart ('0' :: rest) ≠ 0 := by
      intro hnone
      have hfraction : fractionPart ('0' :: rest) = 0 := fractionPart_eq_zero (by simp)
      exact h (by simp [decimal, mantissa, hnone, hfraction])
    have hlength : integerPart ('0' :: rest) = Text.runLength Char.isDigit rest + 1 := by
      rw [(integerPart_zero_of_ne hinteger).1]
      simp [Text.runLength]
    have hrun := Text.runLength_mono (fun c => isDigit_of_isOctalDigit (c := c)) rest
    calc zeroOctal ('0' :: rest) ≤ Text.runLength isOctalDigit rest + 1 := by
          rw [zeroOctal]
          split <;> omega
      _ ≤ integerPart ('0' :: rest) := by omega
      _ ≤ decimal ('0' :: rest) :=
          Nat.le_trans (integerPart_le_mantissa _) (mantissa_le_decimal _)
  · rw [zeroOctal_eq_zero hzero]
    exact Nat.zero_le _

/-- The first way that the text begins with is the longest. -/
theorem le_number (text : Text) :
    ∀ n ∈ [radixInteger text, bigInteger text, decimal text, zeroOctal text], n ≤ number text := by
  simp only [List.forall_mem_cons, List.not_mem_nil, false_implies, implies_true, and_true]
  fun_cases number text with
  | case1 n hradix =>
    have := ways_of_radixInteger (show radixInteger text ≠ 0 by simp [hradix])
    omega
  | case2 hradix n hbig =>
    have := ways_of_bigInteger (show bigInteger text ≠ 0 by simp [hbig])
    omega
  | case3 hradix hbig n hdecimal =>
    have := zeroOctal_le_decimal (show decimal text ≠ 0 by simp [hdecimal])
    omega
  | case4 hradix hbig hdecimal => omega

/-! ## Numbers and points -/

/-- Without a leading zero and without the mark of a big integer, a number is a decimal one. -/
theorem number_eq_decimal {text : Text} (hzero : text.head? ≠ some '0')
    (hmark : bigMark (text.drop (digits Char.isDigit text)) = 0) : number text = decimal text := by
  rw [number, radixInteger_eq_zero hzero, bigInteger_eq_zero hzero hmark, zeroOctal_eq_zero hzero]
  cases decimal text <;> rfl

/-- A number begins with a digit or a point. -/
theorem number_eq_zero {c : Char} (hc : c.isDigit = false) (hpoint : c ≠ '.') (rest : Text) :
    number (c :: rest) = 0 := by
  have hhead : (c :: rest).head? ≠ some '0' := by
    rintro heq
    obtain rfl := Option.some.inj heq
    simp at hc
  have hdigits : digits Char.isDigit (c :: rest) = 0 := by simp [digits, hc]
  have hbig : bigInteger (c :: rest) = 0 := by
    simp [bigInteger_eq_of_head?_ne hhead, positiveDigits_eq_digits hhead, hdigits]
  have hmantissa : mantissa (c :: rest) = 0 := by
    rw [mantissa, integerPart_eq_digits hhead, hdigits]
    have hfraction : fractionPart (c :: rest) = 0 := fractionPart_eq_zero (by simpa using hpoint)
    simp [hfraction]
  rw [number, radixInteger_eq_zero hhead, hbig, zeroOctal_eq_zero hhead, decimal, hmantissa]

/-- A number that begins with a point has digits behind it. -/
theorem number_point (rest : Text) : number ('.' :: rest) =
    if digits Char.isDigit rest = 0 then 0
    else digits Char.isDigit rest + 1 + exponentPart (rest.drop (digits Char.isDigit rest)) := by
  have hmantissa : mantissa ('.' :: rest) =
      if digits Char.isDigit rest = 0 then 0 else digits Char.isDigit rest + 1 := by
    have hinteger : integerPart ('.' :: rest) = 0 := rfl
    rw [mantissa, hinteger]
    simp [fractionPart]
  rw [number_eq_decimal (by simp) rfl]
  split
  · next hnone => rw [decimal, hmantissa, if_pos hnone]
  · next hdigits =>
    rw [if_neg hdigits] at hmantissa
    rw [decimal_of_mantissa (by omega), hmantissa, List.drop_succ_cons]

theorem number_point_ne_one (rest : Text) : number ('.' :: rest) ≠ 1 := by
  rw [number_point]
  split <;> omega

theorem number_point_ne_zero {rest : Text} (h : startsWithDigit rest = true) :
    number ('.' :: rest) ≠ 0 := by
  rw [number_point]
  cases rest with
  | nil => simp [startsWithDigit] at h
  | cons d rest =>
    have hd : d.isDigit = true := by simpa [startsWithDigit] using h
    simp [digits, hd]

/-- A number begins with a digit, or with a point and a digit. -/
theorem head?_of_number {text : Text} (h : number text ≠ 0) : ∃ c rest, text = c :: rest ∧
    (c.isDigit = true ∨ c = '.' ∧ startsWithDigit rest = true) := by
  cases text with
  | nil => exact absurd rfl h
  | cons c rest =>
    refine ⟨c, rest, rfl, ?_⟩
    cases hdigit : c.isDigit with
    | true => exact .inl rfl
    | false =>
      have hpoint : c = '.' := Decidable.byContradiction fun hne => h (number_eq_zero hdigit hne rest)
      subst hpoint
      refine .inr ⟨rfl, ?_⟩
      rw [number_point] at h
      cases rest with
      | nil => exact absurd rfl h
      | cons d rest =>
        cases hd : d.isDigit with
        | true => simpa [startsWithDigit] using hd
        | false => simp [digits, hd] at h

/-! ## Punctuators -/

/-- A character that is a punctuator by itself is read as one, or as the beginning of one, unless
    it may begin a comment or a number. -/
theorem punctuator_ne_zero {c : Char} (hmark : [c] ∈ punctuators) (hslash : c ≠ '/')
    (hpoint : c ≠ '.') (rest : Text) : punctuator (c :: rest) ≠ 0 := by
  have hcounts : CountsAsPunctuator (c :: rest) [c] :=
    ⟨hmark, by simp [hpoint], by simp [BeginsComment, hslash.symm]⟩
  exact Nat.ne_of_gt (hcounts.length_le_punctuator ⟨rest, rfl⟩)

/-- A point is a punctuator, unless it begins a number. -/
theorem punctuator_point_ne_zero {rest : Text} (h : startsWithDigit rest = false) :
    punctuator ('.' :: rest) ≠ 0 := by
  have hcounts : CountsAsPunctuator ('.' :: rest) ['.'] :=
    ⟨by decide, fun _ => h, by simp [BeginsComment]⟩
  exact Nat.ne_of_gt (hcounts.length_le_punctuator ⟨rest, rfl⟩)

/-! ## Slashes -/

theorem regex_slash_eq_zero_iff {rest : Text} :
    regex ('/' :: rest) = 0 ↔ rest.head? = some '/' ∨ rest.head? = some '*' := by
  cases rest with
  | nil => simp [regex]
  | cons c rest =>
    by_cases hslash : c = '/'
    · simp [regex, hslash]
    · by_cases hstar : c = '*'
      · simp [regex, hstar]
      · simp [regex, hslash, hstar]

theorem beginsComment_slash_iff {rest : Text} :
    BeginsComment ('/' :: rest) ↔ rest.head? = some '/' ∨ rest.head? = some '*' := by
  cases rest <;> simp [BeginsComment, eq_comm]

theorem punctuator_slash_eq_zero_iff {rest : Text} :
    punctuator ('/' :: rest) = 0 ↔ rest.head? = some '/' ∨ rest.head? = some '*' := by
  rw [← beginsComment_slash_iff]
  constructor
  · intro hzero
    refine Decidable.byContradiction fun hcomment => ?_
    have hcounts : CountsAsPunctuator ('/' :: rest) ['/'] := ⟨by decide, by simp, hcomment⟩
    exact Nat.ne_of_gt (hcounts.length_le_punctuator ⟨rest, rfl⟩) hzero
  · exact punctuator_eq_zero_of_comment

/-- Two slashes, or a slash and a star, begin a comment. -/
theorem comment_ne_zero {rest : Text} (h : rest.head? = some '/' ∨ rest.head? = some '*') :
    lineComment ('/' :: rest) ≠ 0 ∨ blockComment ('/' :: rest) ≠ 0 := by
  obtain h | h := h
  · obtain ⟨more, rfl⟩ := List.head?_eq_some_iff.1 h
    refine .inl ?_
    have hslash : Text.isLineEnd '/' = false := by decide
    simp [lineComment, lineLength, Text.runLength, hslash]
  · obtain ⟨more, rfl⟩ := List.head?_eq_some_iff.1 h
    exact .inr (Nat.succ_ne_zero _)

end SyntaxColor.Lexeme
