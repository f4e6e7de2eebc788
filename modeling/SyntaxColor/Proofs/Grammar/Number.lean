/-
  The grammar of numbers.

  A number is a hexadecimal, octal or binary integer behind `0x`, `0o` or `0b`, a big integer with
  the mark `n`, a decimal number with or without a fraction and an exponent, or an octal integer
  that only a leading zero announces.  Digits may have single underscores between them, except
  behind a leading zero.

  `IsNumber`: the grammar, apart from the scanner.
  `isNumber_take`: what the scanner finds is a number.
  `IsNumber.length_le_number`: no number that the text begins with is longer.
  `number_isLongest`: the scanner finds the longest number that the text begins with.
-/
import SyntaxColor.Proofs.Lexeme.Settled

namespace SyntaxColor.Lexeme

/-! ## The grammar -/

/-- Digits behind a first one, each with an underscore before it or without. -/
inductive IsMoreDigits (isDigit : Char → Bool) : Text → Prop
  | nil : IsMoreDigits isDigit []
  | digit {d : Char} {more : Text} (hd : isDigit d = true) (h : IsMoreDigits isDigit more) :
      IsMoreDigits isDigit (d :: more)
  | separated {d : Char} {more : Text} (hd : isDigit d = true) (h : IsMoreDigits isDigit more) :
      IsMoreDigits isDigit ('_' :: d :: more)

/-- Digits, with single underscores between them. -/
inductive IsDigits (isDigit : Char → Bool) : Text → Prop
  | cons {d : Char} {more : Text} (hd : isDigit d = true) (h : IsMoreDigits isDigit more) :
      IsDigits isDigit (d :: more)

/-- The integer part of a decimal number. -/
inductive IsInteger : Text → Prop
  | zero : IsInteger ['0']
  | positive {ds : Text} (h : IsDigits Char.isDigit ds) (hzero : ds.head? ≠ some '0') :
      IsInteger ds
  /-- An 8 or a 9 keeps the digits behind a leading zero from being octal. -/
  | notOctal {ds : Text} (h : ∀ d ∈ ds, d.isDigit = true) (hoctal : '8' ∈ ds ∨ '9' ∈ ds) :
      IsInteger ('0' :: ds)

/-- A point and the digits behind it, if any. -/
inductive IsFraction : Text → Prop
  | point : IsFraction ['.']
  | pointed {ds : Text} (h : IsDigits Char.isDigit ds) : IsFraction ('.' :: ds)

/-- An exponent. -/
inductive IsExponent : Text → Prop
  | exponent {e : Char} {sign ds : Text} (he : e = 'e' ∨ e = 'E')
      (hsign : sign ∈ [[], ['+'], ['-']]) (h : IsDigits Char.isDigit ds) :
      IsExponent (e :: sign ++ ds)

/-- A number. -/
inductive IsNumber : Text → Prop
  | hexadecimal {x : Char} {ds mark : Text} (hx : x = 'x' ∨ x = 'X')
      (h : IsDigits isHexDigit ds) (hmark : mark = [] ∨ mark = ['n']) :
      IsNumber ('0' :: x :: ds ++ mark)
  | octal {o : Char} {ds mark : Text} (ho : o = 'o' ∨ o = 'O')
      (h : IsDigits isOctalDigit ds) (hmark : mark = [] ∨ mark = ['n']) :
      IsNumber ('0' :: o :: ds ++ mark)
  | binary {b : Char} {ds mark : Text} (hb : b = 'b' ∨ b = 'B')
      (h : IsDigits isBinaryDigit ds) (hmark : mark = [] ∨ mark = ['n']) :
      IsNumber ('0' :: b :: ds ++ mark)
  | bigZero : IsNumber ['0', 'n']
  | big {ds : Text} (h : IsDigits Char.isDigit ds) (hzero : ds.head? ≠ some '0') :
      IsNumber (ds ++ ['n'])
  | decimal {integer fraction exponent : Text} (hinteger : IsInteger integer)
      (hfraction : fraction = [] ∨ IsFraction fraction)
      (hexponent : exponent = [] ∨ IsExponent exponent) :
      IsNumber (integer ++ fraction ++ exponent)
  /-- Without an integer part, a digit has to follow the point. -/
  | pointed {ds exponent : Text} (h : IsDigits Char.isDigit ds)
      (hexponent : exponent = [] ∨ IsExponent exponent) : IsNumber ('.' :: ds ++ exponent)
  | zeroOctal {ds : Text} (hne : ds ≠ []) (h : ∀ d ∈ ds, isOctalDigit d = true) :
      IsNumber ('0' :: ds)

/-! ## What the scanner finds -/

section Sound

variable {text : Text}

theorem isMoreDigits_take (isDigit : Char → Bool) (text : Text) :
    IsMoreDigits isDigit (text.take (moreDigits isDigit text)) := by
  fun_induction moreDigits isDigit text with
  | case1 d rest hd ih => exact .separated hd ih
  | case3 d rest _ hd ih => exact .digit hd ih
  | _ => exact .nil

theorem isDigits_take {isDigit : Char → Bool} (h : digits isDigit text ≠ 0) :
    IsDigits isDigit (text.take (digits isDigit text)) := by
  revert h
  fun_cases digits isDigit text with
  | case1 d rest hd => exact fun _ => .cons hd (isMoreDigits_take isDigit rest)
  | _ => exact fun h => absurd rfl h

theorem bigMark_take_cases (text : Text) :
    text.take (bigMark text) = [] ∨ text.take (bigMark text) = ['n'] := by
  fun_cases bigMark text with
  | case1 => exact .inr rfl
  | case2 => exact .inl rfl

/-- Digits behind a zero and the letter that announces them. -/
theorem isNumber_of_radixDigit? {letter : Char} {isDigit : Char → Bool} {ds mark : Text}
    (hradix : radixDigit? letter = some isDigit) (h : IsDigits isDigit ds)
    (hmark : mark = [] ∨ mark = ['n']) : IsNumber ('0' :: letter :: ds ++ mark) := by
  revert hradix
  fun_cases radixDigit? letter with
  | case1 => rintro ⟨⟩; exact .hexadecimal (.inl rfl) h hmark
  | case2 => rintro ⟨⟩; exact .hexadecimal (.inr rfl) h hmark
  | case3 => rintro ⟨⟩; exact .octal (.inl rfl) h hmark
  | case4 => rintro ⟨⟩; exact .octal (.inr rfl) h hmark
  | case5 => rintro ⟨⟩; exact .binary (.inl rfl) h hmark
  | case6 => rintro ⟨⟩; exact .binary (.inr rfl) h hmark
  | case7 => exact fun h => absurd h (by simp)

theorem isNumber_radixInteger (h : radixInteger text ≠ 0) :
    IsNumber (text.take (radixInteger text)) := by
  revert h
  fun_cases radixInteger text with
  | case2 letter rest isDigit hradix n hdigits =>
    intro _
    have hds : IsDigits isDigit (rest.take (n + 1)) := by
      rw [← Nat.succ_eq_add_one, ← hdigits]
      exact isDigits_take (by simp [hdigits])
    have hlength : 2 + (n + 1) + bigMark (rest.drop (n + 1)) =
        n + 1 + bigMark (rest.drop (n + 1)) + 1 + 1 := by omega
    rw [hlength, List.take_succ_cons, List.take_succ_cons, List.take_add]
    exact isNumber_of_radixDigit? hradix hds (bigMark_take_cases _)
  | _ => exact fun h => absurd rfl h

theorem isNumber_bigInteger (h : bigInteger text ≠ 0) :
    IsNumber (text.take (bigInteger text)) := by
  obtain ⟨rest, rfl⟩ | ⟨hzero, hdigits, ⟨rest, hrest⟩, hbig⟩ := cases_of_bigInteger h
  · exact .bigZero
  · rw [hbig, List.take_add, hrest]
    exact .big (isDigits_take hdigits) (head?_take_ne hzero _)

theorem isInteger_take (h : integerPart text ≠ 0) :
    IsInteger (text.take (integerPart text)) := by
  by_cases hzero : text.head? = some '0'
  · obtain ⟨rest, rfl⟩ := List.head?_eq_some_iff.1 hzero
    obtain ⟨hlength, hrun⟩ := integerPart_zero_of_ne h
    have htake : ('0' :: rest).take (integerPart ('0' :: rest)) =
        '0' :: rest.takeWhile Char.isDigit := by
      rw [hlength, ← Text.runLength, Text.take_runLength]
      simp
    rw [htake]
    obtain hnil | hoctal := hrun
    · rw [hnil]
      exact .zero
    · exact .notOctal (fun d hd => List.all_eq_true.1 List.all_takeWhile d hd) hoctal
  · rw [integerPart_eq_digits hzero] at h ⊢
    exact .positive (isDigits_take h) (head?_take_ne hzero _)

theorem isFraction_take (text : Text) : text.take (fractionPart text) = [] ∨
    IsFraction (text.take (fractionPart text)) := by
  fun_cases fractionPart text with
  | case1 rest =>
    by_cases hdigits : digits Char.isDigit rest = 0
    · rw [hdigits]
      exact .inr .point
    · exact .inr (.pointed (isDigits_take hdigits))
  | case2 => exact .inl rfl

theorem exponentSign_take_mem (text : Text) :
    text.take (exponentSign text) ∈ [[], ['+'], ['-']] := by
  fun_cases exponentSign text <;> simp

theorem isExponent_take (text : Text) : text.take (exponentPart text) = [] ∨
    IsExponent (text.take (exponentPart text)) := by
  fun_cases exponentPart text with
  | case2 e rest he sign n hdigits =>
    have hds : IsDigits Char.isDigit ((rest.drop sign).take (n + 1)) := by
      rw [← Nat.succ_eq_add_one, ← hdigits]
      exact isDigits_take (by simp [hdigits])
    have hlength : 1 + sign + (n + 1) = sign + (n + 1) + 1 := by omega
    rw [hlength, List.take_succ_cons, List.take_add]
    exact .inr (.exponent (by simpa using he) (exponentSign_take_mem rest) hds)
  | _ => exact .inl rfl

theorem isNumber_decimal (h : decimal text ≠ 0) : IsNumber (text.take (decimal text)) := by
  have hmantissa : mantissa text ≠ 0 := fun hnone => h (by rw [decimal, hnone])
  have hexponent := isExponent_take (text.drop (mantissa text))
  rw [decimal_of_mantissa hmantissa, List.take_add]
  by_cases hinteger : integerPart text = 0
  · obtain ⟨hlength, rest, rfl, hdigits⟩ := mantissa_of_no_integer hmantissa hinteger
    rw [hlength, fractionPart] at hexponent ⊢
    exact .pointed (isDigits_take hdigits) hexponent
  · rw [mantissa_of_integer hinteger] at hexponent ⊢
    rw [List.take_add]
    exact .decimal (isInteger_take hinteger) (isFraction_take _) hexponent

theorem isNumber_zeroOctal (h : zeroOctal text ≠ 0) :
    IsNumber (text.take (zeroOctal text)) := by
  revert h
  fun_cases zeroOctal text with
  | case2 rest n hn =>
    intro _
    refine .zeroOctal (fun hnil => ?_) (madeOf_runLength isOctalDigit rest)
    have hlength := List.length_take_of_le (Text.runLength_le isOctalDigit rest)
    rw [hnil] at hlength
    exact hn hlength.symm
  | _ => exact fun h => absurd rfl h

/-- What the scanner finds is a number. -/
theorem isNumber_take (h : number text ≠ 0) : IsNumber (text.take (number text)) := by
  have hway := number_mem text
  simp only [List.mem_cons, List.not_mem_nil, or_false] at hway
  obtain hway | hway | hway | hway := hway
  · rw [hway] at h ⊢
    exact isNumber_radixInteger h
  · rw [hway] at h ⊢
    exact isNumber_bigInteger h
  · rw [hway] at h ⊢
    exact isNumber_decimal h
  · rw [hway] at h ⊢
    exact isNumber_zeroOctal h

end Sound

/-! ## No longer number -/

section Complete

variable {isDigit : Char → Bool} {text rest : Text}

/-- Whether digits that end before the rest do not go on with it. -/
def StopsDigits (isDigit : Char → Bool) (rest : Text) : Prop :=
  ∀ c, rest.head? = some c → isDigit c = false ∧ c ≠ '_'

theorem stopsDigits_cons {c : Char} (hc : isDigit c = false ∧ c ≠ '_') (rest : Text) :
    StopsDigits isDigit (c :: rest) := by
  rintro d ⟨⟩
  exact hc

theorem StopsDigits.moreDigits_eq_zero (h : StopsDigits isDigit rest) :
    moreDigits isDigit rest = 0 := by
  cases rest with
  | nil => rfl
  | cons c rest => simp [moreDigits, h c rfl]

theorem StopsDigits.takeWhile_eq_nil (h : StopsDigits isDigit rest) :
    rest.takeWhile isDigit = [] := by
  cases rest with
  | nil => rfl
  | cons c rest => simp [h c rfl]

/-- The scanner reads over all of the digits, and on behind them. -/
theorem IsMoreDigits.moreDigits_add {more : Text} (h : IsMoreDigits isDigit more)
    (hunderscore : isDigit '_' = false) (rest : Text) :
    moreDigits isDigit (more ++ rest) = more.length + moreDigits isDigit rest := by
  induction h with
  | nil => simp
  | @digit d more hd _ ih =>
    have hne : d ≠ '_' := by
      rintro rfl
      simp [hunderscore] at hd
    simp [moreDigits, hne, hd, ih]
    omega
  | @separated d more hd _ ih =>
    simp only [List.cons_append, moreDigits, hd, if_true, ih, List.length_cons]
    omega

theorem IsDigits.digits_add {ds : Text} (h : IsDigits isDigit ds)
    (hunderscore : isDigit '_' = false) (rest : Text) :
    digits isDigit (ds ++ rest) = ds.length + moreDigits isDigit rest := by
  cases h with
  | cons hd hmore =>
    simp only [List.cons_append, digits, hd, if_true, hmore.moreDigits_add hunderscore,
      List.length_cons]
    omega

theorem IsDigits.digits_append {ds : Text} (h : IsDigits isDigit ds)
    (hunderscore : isDigit '_' = false) (hrest : StopsDigits isDigit rest) :
    digits isDigit (ds ++ rest) = ds.length := by
  rw [h.digits_add hunderscore, hrest.moreDigits_eq_zero, Nat.add_zero]

theorem IsDigits.ne_nil {ds : Text} (h : IsDigits isDigit ds) : ds ≠ [] := by
  cases h
  simp

/-- A mark behind digits is read with them. -/
theorem length_le_radixInteger {letter : Char} {ds mark : Text}
    (hradix : radixDigit? letter = some isDigit)
    (hdigit : isDigit '_' = false ∧ isDigit 'n' = false) (h : IsDigits isDigit ds)
    (hmark : mark = [] ∨ mark = ['n']) (rest : Text) :
    ('0' :: letter :: ds ++ mark).length ≤ radixInteger ('0' :: letter :: ds ++ mark ++ rest) := by
  have hlength : ∀ n, n ≠ 0 → digits isDigit (ds ++ mark ++ rest) = n →
      radixInteger ('0' :: letter :: ds ++ mark ++ rest) =
        2 + n + bigMark ((ds ++ mark ++ rest).drop n) := by
    intro n hn hdigits
    obtain ⟨n, rfl⟩ := Nat.exists_eq_succ_of_ne_zero hn
    simp only [List.cons_append, radixInteger, hradix, hdigits]
  have hpos := List.length_pos_iff.2 h.ne_nil
  obtain rfl | rfl := hmark
  · have hdigits := h.digits_add hdigit.1 rest
    rw [hlength (ds.length + moreDigits isDigit rest) (by omega) (by simpa using hdigits)]
    simp only [List.length_append, List.length_cons, List.length_nil]
    omega
  · have hdigits := h.digits_append hdigit.1
      (stopsDigits_cons (c := 'n') ⟨hdigit.2, by decide⟩ rest)
    rw [hlength ds.length (by omega) (by simpa using hdigits)]
    simp only [List.append_assoc, List.drop_left, List.singleton_append, bigMark,
      List.length_append, List.length_cons, List.length_nil]
    omega

theorem IsDigits.head?_append_ne {ds : Text} (h : IsDigits isDigit ds)
    (hzero : ds.head? ≠ some '0') (rest : Text) : (ds ++ rest).head? ≠ some '0' := by
  obtain ⟨d, more, rfl⟩ := List.exists_cons_of_ne_nil h.ne_nil
  exact hzero

theorem length_le_bigInteger {ds : Text} (h : IsDigits Char.isDigit ds)
    (hzero : ds.head? ≠ some '0') (rest : Text) :
    (ds ++ ['n']).length ≤ bigInteger (ds ++ ['n'] ++ rest) := by
  have hhead : (ds ++ ['n'] ++ rest).head? ≠ some '0' := by
    rw [List.append_assoc]
    exact h.head?_append_ne hzero _
  have hdigits : digits Char.isDigit (ds ++ ['n'] ++ rest) = ds.length := by
    rw [List.append_assoc]
    exact h.digits_append rfl (stopsDigits_cons (c := 'n') (by decide) rest)
  have hpos := List.length_pos_iff.2 h.ne_nil
  have hmark : bigMark ((ds ++ ['n'] ++ rest).drop ds.length) ≠ 0 := by
    rw [List.append_assoc, List.drop_left]
    exact Nat.one_ne_zero
  rw [bigInteger_eq_of_head?_ne hhead, positiveDigits_eq_digits hhead, hdigits,
    if_pos ⟨by omega, hmark⟩]
  simp

/-! ### Decimal numbers -/

theorem integerPart_notOctal {ds : Text} (h : ∀ d ∈ ds, d.isDigit = true)
    (hoctal : '8' ∈ ds ∨ '9' ∈ ds) (rest : Text) :
    integerPart ('0' :: ds ++ rest) = ('0' :: ds).length + Text.runLength Char.isDigit rest := by
  have hall : ∀ d ∈ '0' :: ds, d.isDigit = true := List.forall_mem_cons.2 ⟨rfl, h⟩
  have hany : ('0' :: ds ++ rest.takeWhile Char.isDigit).any (fun d => d = '8' || d = '9') =
      true := by
    obtain hoctal | hoctal := hoctal
    · exact List.any_eq_true.2 ⟨'8', by simp [hoctal], rfl⟩
    · exact List.any_eq_true.2 ⟨'9', by simp [hoctal], rfl⟩
  rw [List.cons_append, integerPart_zero, ← List.cons_append,
    List.takeWhile_append_of_pos hall, hany, Bool.or_true, if_pos rfl, List.length_append,
    Text.runLength]

/-- The scanner reads over all of an integer, unless it is a zero with a digit behind it. -/
theorem IsInteger.length_le {integer : Text} (h : IsInteger integer) (hne : integer ≠ ['0'])
    (rest : Text) : integer.length ≤ integerPart (integer ++ rest) := by
  cases h with
  | zero => exact absurd rfl hne
  | positive h hzero =>
    rw [integerPart_eq_digits (h.head?_append_ne hzero rest), h.digits_add rfl]
    exact Nat.le_add_right _ _
  | notOctal h hoctal =>
    rw [integerPart_notOctal h hoctal]
    exact Nat.le_add_right _ _

theorem IsInteger.integerPart_append {integer : Text} (h : IsInteger integer)
    (hrest : StopsDigits Char.isDigit rest) : integerPart (integer ++ rest) = integer.length := by
  cases h with
  | zero => simp [integerPart_zero, hrest.takeWhile_eq_nil]
  | positive h hzero =>
    rw [integerPart_eq_digits (h.head?_append_ne hzero rest), h.digits_append rfl hrest]
  | notOctal h hoctal =>
    rw [integerPart_notOctal h hoctal, Text.runLength, hrest.takeWhile_eq_nil]
    rfl

theorem IsInteger.ne_nil {integer : Text} (h : IsInteger integer) : integer ≠ [] := by
  cases h with
  | zero => simp
  | positive h => exact h.ne_nil
  | notOctal => simp

theorem IsInteger.mantissa_append {integer : Text} (h : IsInteger integer)
    (hrest : StopsDigits Char.isDigit rest) :
    mantissa (integer ++ rest) = integer.length + fractionPart rest := by
  have hlength := h.integerPart_append hrest
  have hne : integerPart (integer ++ rest) ≠ 0 := by
    rw [hlength]
    exact mt List.length_eq_zero_iff.1 h.ne_nil
  rw [mantissa_of_integer hne, hlength, List.drop_left]

theorem IsFraction.stopsDigits {fraction : Text} (h : IsFraction fraction) (rest : Text) :
    StopsDigits Char.isDigit (fraction ++ rest) := by
  cases h <;> exact stopsDigits_cons (by decide) _

theorem IsFraction.length_le {fraction : Text} (h : IsFraction fraction) (rest : Text) :
    fraction.length ≤ fractionPart (fraction ++ rest) := by
  cases h with
  | point => exact Nat.le_add_left _ _
  | pointed h =>
    rw [List.cons_append, fractionPart, h.digits_add rfl, List.length_cons]
    omega

theorem IsFraction.fractionPart_append {fraction : Text} (h : IsFraction fraction)
    (hrest : StopsDigits Char.isDigit rest) :
    fractionPart (fraction ++ rest) = fraction.length := by
  cases h with
  | point =>
    have hnone : digits Char.isDigit rest = 0 := by
      cases rest with
      | nil => rfl
      | cons c rest => simp [digits, hrest c rfl]
    rw [List.cons_append, List.nil_append, fractionPart, hnone]
    rfl
  | pointed h => rw [List.cons_append, fractionPart, h.digits_append rfl hrest, List.length_cons]

/-- An exponent begins with its letter. -/
theorem IsExponent.head? {exponent : Text} (h : IsExponent exponent) (rest : Text) :
    ∃ e, (exponent ++ rest).head? = some e ∧ (e = 'e' ∨ e = 'E') := by
  cases h with
  | @exponent e _ _ he => exact ⟨e, rfl, he⟩

theorem IsExponent.stopsDigits {exponent : Text} (h : IsExponent exponent) (rest : Text) :
    StopsDigits Char.isDigit (exponent ++ rest) := by
  obtain ⟨e, hhead, he⟩ := h.head? rest
  intro c hc
  obtain rfl := Option.some.inj (hhead.symm.trans hc)
  obtain rfl | rfl := he <;> decide

theorem IsExponent.length_le {exponent : Text} (h : IsExponent exponent) (rest : Text) :
    exponent.length ≤ exponentPart (exponent ++ rest) := by
  cases h with
  | @exponent e sign ds he hsign h =>
    have hletter : (e = 'e' || e = 'E') = true := by simpa using he
    have hexponentSign : exponentSign (sign ++ (ds ++ rest)) = sign.length := by
      simp only [List.mem_cons, List.not_mem_nil, or_false] at hsign
      obtain rfl | rfl | rfl := hsign
      · cases h with
        | @cons d more hd =>
          have hplus := ne_of_isDigit hd (d := '+') rfl
          have hminus := ne_of_isDigit hd (d := '-') rfl
          simp [exponentSign, hplus, hminus]
      · rfl
      · rfl
    have hpos := List.length_pos_iff.2 h.ne_nil
    obtain ⟨n, hn⟩ := Nat.exists_eq_succ_of_ne_zero
      (show ds.length + moreDigits Char.isDigit rest ≠ 0 by omega)
    have hdigits : digits Char.isDigit (ds ++ rest) = n + 1 := by rw [h.digits_add rfl, hn]
    rw [List.cons_append, List.cons_append, List.append_assoc, exponentPart, if_pos hletter]
    dsimp only
    rw [hexponentSign, List.drop_left, hdigits]
    simp only [List.length_cons, List.length_append]
    omega

/-- Behind digits that end there, the scanner looks for an exponent. -/
theorem decimal_append {ds : Text} (hne : ds ≠ []) (h : mantissa (ds ++ rest) = ds.length) :
    decimal (ds ++ rest) = ds.length + exponentPart rest := by
  have hmantissa : mantissa (ds ++ rest) ≠ 0 := by
    rw [h]
    exact mt List.length_eq_zero_iff.1 hne
  rw [decimal_of_mantissa hmantissa, h, List.drop_left]

theorem length_le_mantissa {integer fraction : Text} (hinteger : IsInteger integer)
    (hfraction : fraction = [] ∨ IsFraction fraction) (hne : integer ++ fraction ≠ ['0'])
    (rest : Text) : (integer ++ fraction).length ≤ mantissa (integer ++ fraction ++ rest) := by
  obtain rfl | hfraction := hfraction
  · rw [List.append_nil] at hne ⊢
    exact Nat.le_trans (hinteger.length_le hne rest) (integerPart_le_mantissa _)
  · rw [List.append_assoc, hinteger.mantissa_append (hfraction.stopsDigits rest),
      List.length_append]
    exact Nat.add_le_add_left (hfraction.length_le rest) _

theorem mantissa_append_exponent {integer fraction exponent : Text} (hinteger : IsInteger integer)
    (hfraction : fraction = [] ∨ IsFraction fraction) (hexponent : IsExponent exponent)
    (rest : Text) : mantissa (integer ++ fraction ++ (exponent ++ rest)) =
      (integer ++ fraction).length := by
  have hstops := hexponent.stopsDigits rest
  obtain rfl | hfraction := hfraction
  · obtain ⟨e, hhead, he⟩ := hexponent.head? rest
    have hpoint : (exponent ++ rest).head? ≠ some '.' := by
      rw [hhead]
      obtain rfl | rfl := he <;> decide
    rw [List.append_nil, hinteger.mantissa_append hstops, fractionPart_eq_zero hpoint,
      Nat.add_zero]
  · rw [List.append_assoc, hinteger.mantissa_append (hfraction.stopsDigits _),
      hfraction.fractionPart_append hstops, List.length_append]

theorem length_le_decimal {integer fraction exponent : Text} (hinteger : IsInteger integer)
    (hfraction : fraction = [] ∨ IsFraction fraction)
    (hexponent : exponent = [] ∨ IsExponent exponent)
    (hne : integer ++ fraction ++ exponent ≠ ['0']) (rest : Text) :
    (integer ++ fraction ++ exponent).length ≤
      decimal (integer ++ fraction ++ exponent ++ rest) := by
  obtain rfl | hexponent := hexponent
  · rw [List.append_nil] at hne ⊢
    exact Nat.le_trans (length_le_mantissa hinteger hfraction hne rest) (mantissa_le_decimal _)
  · rw [List.append_assoc _ exponent rest, decimal_append (by simp [hinteger.ne_nil])
      (mantissa_append_exponent hinteger hfraction hexponent rest), List.length_append]
    exact Nat.add_le_add_left (hexponent.length_le rest) _

theorem length_le_number_point {ds exponent : Text} (h : IsDigits Char.isDigit ds)
    (hexponent : exponent = [] ∨ IsExponent exponent) (rest : Text) :
    ('.' :: ds ++ exponent).length ≤ number ('.' :: ds ++ exponent ++ rest) := by
  have hpos := List.length_pos_iff.2 h.ne_nil
  have hdigits := h.digits_add rfl (exponent ++ rest)
  rw [List.append_assoc, List.cons_append, List.cons_append, number_point, if_neg (by omega)]
  obtain rfl | hexponent := hexponent
  · rw [hdigits]
    simp only [List.length_append, List.length_cons, List.length_nil]
    omega
  · rw [h.digits_append rfl (hexponent.stopsDigits rest), List.drop_left]
    have := hexponent.length_le rest
    simp only [List.length_append, List.length_cons]
    omega

theorem length_le_zeroOctal {ds : Text} (hne : ds ≠ []) (h : ∀ d ∈ ds, isOctalDigit d = true)
    (rest : Text) : ('0' :: ds).length ≤ zeroOctal ('0' :: ds ++ rest) := by
  have hpos := List.length_pos_iff.2 hne
  rw [List.cons_append, zeroOctal, Text.runLength_add h, if_neg (by omega), List.length_cons]
  omega

theorem eq_of_not_isOctalDigit {c : Char} (hdigit : c.isDigit = true)
    (hoctal : isOctalDigit c = false) : c = '8' ∨ c = '9' := by
  have hascii : ∀ n < 58, (Char.ofNat n).isDigit = true → isOctalDigit (Char.ofNat n) = false →
      Char.ofNat n = '8' ∨ Char.ofNat n = '9' := by decide
  have hbound := (toNat_of_isDigit hdigit).2
  rw [← Char.ofNat_toNat c] at hdigit hoctal ⊢
  exact hascii _ (by omega) hdigit hoctal

/-- A zero begins a number, whatever is behind it: alone, octal, or with an 8 or a 9. -/
theorem number_zero_ne_zero (rest : Text) : number ('0' :: rest) ≠ 0 := by
  have hways := le_number ('0' :: rest)
  have hinteger : integerPart ('0' :: rest) ≤ number ('0' :: rest) :=
    Nat.le_trans (Nat.le_trans (integerPart_le_mantissa _) (mantissa_le_decimal _))
      (hways _ (by simp))
  cases rest with
  | nil => exact Nat.one_ne_zero
  | cons c rest =>
    cases hdigit : c.isDigit with
    | false =>
      have hone : integerPart ('0' :: c :: rest) = 1 := by simp [integerPart_zero, hdigit]
      omega
    | true =>
      cases hoctal : isOctalDigit c with
      | true =>
        have hlength : 2 ≤ zeroOctal ('0' :: c :: rest) :=
          length_le_zeroOctal (List.cons_ne_nil c []) (by simpa using hoctal) rest
        have := hways _ (show zeroOctal ('0' :: c :: rest) ∈ _ by simp)
        omega
      | false =>
        have hc : '8' ∈ [c] ∨ '9' ∈ [c] := by
          obtain rfl | rfl := eq_of_not_isOctalDigit hdigit hoctal <;> simp
        have hlength : 2 ≤ integerPart ('0' :: c :: rest) :=
          (IsInteger.notOctal (by simpa using hdigit) hc).length_le (by simp) rest
        omega

/-- The scanner reads at least all of a number, whatever is behind it. -/
theorem IsNumber.length_le_number {lexeme : Text} (h : IsNumber lexeme) (rest : Text) :
    lexeme.length ≤ number (lexeme ++ rest) := by
  have hways := le_number (lexeme ++ rest)
  cases h with
  | hexadecimal hx h hmark =>
    refine Nat.le_trans (length_le_radixInteger ?_ ⟨rfl, rfl⟩ h hmark rest) (hways _ (by simp))
    obtain rfl | rfl := hx <;> rfl
  | octal ho h hmark =>
    refine Nat.le_trans (length_le_radixInteger ?_ ⟨rfl, rfl⟩ h hmark rest) (hways _ (by simp))
    obtain rfl | rfl := ho <;> rfl
  | binary hb h hmark =>
    refine Nat.le_trans (length_le_radixInteger ?_ ⟨rfl, rfl⟩ h hmark rest) (hways _ (by simp))
    obtain rfl | rfl := hb <;> rfl
  | bigZero => exact hways 2 (by simp [bigInteger])
  | big h hzero => exact Nat.le_trans (length_le_bigInteger h hzero rest) (hways _ (by simp))
  | @decimal integer fraction exponent hinteger hfraction hexponent =>
    by_cases hzero : integer ++ fraction ++ exponent = ['0']
    · rw [hzero]
      exact Nat.pos_of_ne_zero (number_zero_ne_zero rest)
    · exact Nat.le_trans (length_le_decimal hinteger hfraction hexponent hzero rest)
        (hways _ (by simp))
  | pointed h hexponent => exact length_le_number_point h hexponent rest
  | zeroOctal hne h => exact Nat.le_trans (length_le_zeroOctal hne h rest) (hways _ (by simp))

theorem IsNumber.ne_nil {lexeme : Text} (h : IsNumber lexeme) : lexeme ≠ [] := by
  cases h with
  | decimal hinteger => simp [hinteger.ne_nil]
  | _ => simp

end Complete

/-- The scanner for numbers, which takes the first of the ways to write one that the text begins
    with, finds the longest beginning of the text that is a number, and nothing if there is none. -/
theorem number_isLongest (text : Text) : IsLongest IsNumber text (number text) := by
  refine isLongest_of (fun h => h.ne_nil rfl) (number_le text) isNumber_take ?_
  rintro lexeme rest rfl h
  exact h.length_le_number rest

end SyntaxColor.Lexeme
