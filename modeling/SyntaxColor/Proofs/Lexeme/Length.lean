/-
  The length of a lexeme.  Every scanner stays inside the text that it is given: the lexeme
  that it finds is a beginning of that text (`x_le` for a scanner `x`).  A text is a list of
  characters, so a lexeme also ends between two of them and never inside one.

  `IsLongest`: the lexeme is the longest beginning of the text that a grammar allows.
-/
import SyntaxColor.Token.Rule.Jsx

namespace SyntaxColor

open Text

/-! ## Runs and line breaks -/

theorem Text.runLength_le (p : Char → Bool) (text : Text) : text.runLength p ≤ text.length :=
  (List.takeWhile_prefix p).length_le

theorem Text.lineBreakLength_le (text : Text) : text.lineBreakLength ≤ text.length := by
  fun_cases lineBreakLength text <;> simp_all

/-- A second lexeme, read behind a first one, ends inside the text. -/
theorem add_le_of_le_drop {text : Text} {n m : Nat} (hn : n ≤ text.length)
    (hm : m ≤ (text.drop n).length) : n + m ≤ text.length := by
  rw [List.length_drop] at hm
  omega

/-! ## Longest beginnings -/

/-- `n` is the length of the longest beginning of the text that satisfies `P`, and 0 if there is
    none. -/
def IsLongest (P : Text → Prop) (text : Text) (n : Nat) : Prop :=
  (∀ lexeme, lexeme <+: text → P lexeme → lexeme.length ≤ n) ∧
    ((∃ lexeme, lexeme <+: text ∧ P lexeme ∧ lexeme.length = n) ∨
      n = 0 ∧ ∀ lexeme, lexeme <+: text → ¬ P lexeme)

/-- It is enough that the beginning of that length satisfies `P`, unless it is empty, and that no
    longer one does. -/
theorem isLongest_of {P : Text → Prop} {text : Text} {n : Nat} (hne : ¬ P [])
    (hle : n ≤ text.length) (hsound : n ≠ 0 → P (text.take n))
    (hlongest : ∀ lexeme rest, text = lexeme ++ rest → P lexeme → lexeme.length ≤ n) :
    IsLongest P text n := by
  have hbound : ∀ lexeme, lexeme <+: text → P lexeme → lexeme.length ≤ n := by
    rintro lexeme ⟨rest, htext⟩ hlexeme
    exact hlongest lexeme rest htext.symm hlexeme
  refine ⟨hbound, ?_⟩
  by_cases hzero : n = 0
  · refine .inr ⟨hzero, fun lexeme hprefix hlexeme => ?_⟩
    have hlength := hbound lexeme hprefix hlexeme
    rw [hzero, Nat.le_zero, List.length_eq_zero_iff] at hlength
    exact hne (hlength ▸ hlexeme)
  · exact .inl ⟨text.take n, List.take_prefix n text, hsound hzero, List.length_take_of_le hle⟩

namespace Lexeme

/-! ## White space and comments -/

theorem whitespace_le (text : Text) : whitespace text ≤ text.length := runLength_le _ _

theorem lineBreak_le (text : Text) : lineBreak text ≤ text.length := lineBreakLength_le _

theorem lineLength_le (text : Text) : lineLength text ≤ text.length := runLength_le _ _

theorem hashbang_le (text : Text) : hashbang text ≤ text.length := by
  unfold hashbang
  split
  · exact lineLength_le _
  · exact Nat.zero_le _

theorem lineComment_le (text : Text) : lineComment text ≤ text.length := by
  unfold lineComment
  split
  · exact lineLength_le _
  · exact Nat.zero_le _

theorem throughCommentEnd_le (text : Text) : throughCommentEnd text ≤ text.length := by
  fun_induction throughCommentEnd text <;> simp_all

theorem blockComment_le (text : Text) : blockComment text ≤ text.length := by
  fun_cases blockComment text with
  | case1 rest => simpa using throughCommentEnd_le rest
  | case2 => exact Nat.zero_le _

/-! ## Names -/

theorem nameParts_le (pending : Nat) (text : Text) : nameParts pending text ≤ text.length := by
  fun_induction nameParts pending text <;> simp_all

theorem plainName_le (text : Text) : plainName text ≤ text.length := by
  unfold plainName
  split
  · split
    · exact nameParts_le 0 _
    · exact Nat.zero_le _
  · exact Nat.zero_le _

theorem name_le (text : Text) : name text ≤ text.length := by
  fun_cases name text with
  | case1 => exact Nat.zero_le _
  | case2 rest => simpa using plainName_le rest
  | case3 => exact plainName_le _

/-! ## Numbers -/

theorem moreDigits_le (isDigit : Char → Bool) (text : Text) :
    moreDigits isDigit text ≤ text.length := by
  fun_induction moreDigits isDigit text <;> simp_all

theorem digits_le (isDigit : Char → Bool) (text : Text) : digits isDigit text ≤ text.length := by
  fun_cases digits isDigit text with
  | case1 d rest => simpa using moreDigits_le isDigit rest
  | _ => exact Nat.zero_le _

theorem bigMark_le (text : Text) : bigMark text ≤ text.length := by
  fun_cases bigMark text <;> simp

theorem radixInteger_le (text : Text) : radixInteger text ≤ text.length := by
  fun_cases radixInteger text with
  | case2 letter rest isDigit _ n hn =>
    have hdigits : n + 1 ≤ rest.length := by
      rw [← Nat.succ_eq_add_one, ← hn]
      exact digits_le isDigit rest
    have := add_le_of_le_drop hdigits (bigMark_le _)
    simp only [List.length_cons]
    omega
  | _ => exact Nat.zero_le _

theorem positiveDigits_le (text : Text) : positiveDigits text ≤ text.length := by
  unfold positiveDigits
  split
  · exact Nat.zero_le _
  · exact digits_le _ _

theorem bigInteger_le (text : Text) : bigInteger text ≤ text.length := by
  unfold bigInteger
  split
  · simp
  · dsimp only
    split
    · next h =>
      have := add_le_of_le_drop (positiveDigits_le text) (bigMark_le _)
      omega
    · exact Nat.zero_le _

theorem integerPart_le (text : Text) : integerPart text ≤ text.length := by
  unfold integerPart
  split
  · dsimp only
    split
    · exact runLength_le _ _
    · exact Nat.zero_le _
  · exact positiveDigits_le _

theorem fractionPart_le (text : Text) : fractionPart text ≤ text.length := by
  fun_cases fractionPart text with
  | case1 rest => simpa using digits_le Char.isDigit rest
  | case2 => exact Nat.zero_le _

theorem exponentSign_le (text : Text) : exponentSign text ≤ text.length := by
  fun_cases exponentSign text <;> simp

theorem exponentPart_le (text : Text) : exponentPart text ≤ text.length := by
  fun_cases exponentPart text with
  | case2 e rest _ sign n hn =>
    have hdigits : n + 1 ≤ (rest.drop sign).length := by
      rw [← Nat.succ_eq_add_one, ← hn]
      exact digits_le _ _
    have := add_le_of_le_drop (exponentSign_le rest) hdigits
    simp only [List.length_cons]
    omega
  | _ => exact Nat.zero_le _

theorem mantissa_le (text : Text) : mantissa text ≤ text.length := by
  unfold mantissa
  split
  · split
    · exact Nat.zero_le _
    · exact fractionPart_le _
  · next n hn =>
    have hinteger := Nat.le_trans (Nat.le_of_eq hn.symm) (integerPart_le text)
    exact add_le_of_le_drop hinteger (fractionPart_le _)

theorem decimal_le (text : Text) : decimal text ≤ text.length := by
  unfold decimal
  split
  · exact Nat.zero_le _
  · next n hn =>
    have hmantissa := Nat.le_trans (Nat.le_of_eq hn.symm) (mantissa_le text)
    exact add_le_of_le_drop hmantissa (exponentPart_le _)

theorem zeroOctal_le (text : Text) : zeroOctal text ≤ text.length := by
  fun_cases zeroOctal text with
  | case2 rest => simpa using runLength_le isOctalDigit rest
  | _ => exact Nat.zero_le _

/-- A number is written in one of the four ways. -/
theorem number_mem (text : Text) :
    number text ∈ [radixInteger text, bigInteger text, decimal text, zeroOctal text] := by
  fun_cases number text <;> simp_all

theorem number_le (text : Text) : number text ≤ text.length := by
  have hways : ∀ n ∈ [radixInteger text, bigInteger text, decimal text, zeroOctal text],
      n ≤ text.length := by
    simp [radixInteger_le, bigInteger_le, decimal_le, zeroOctal_le]
  exact hways _ (number_mem text)

/-! ## Punctuators -/

theorem isPrefix_of_isPunctuatorOf {text mark : Text} (h : isPunctuatorOf text mark = true) :
    mark <+: text := by
  simp only [isPunctuatorOf, Bool.and_eq_true] at h
  exact List.isPrefixOf_iff_prefix.1 h.1

theorem firstMark_le (marks : List Text) (text : Text) : firstMark marks text ≤ text.length := by
  fun_cases firstMark marks text with
  | case1 mark hmark => exact (isPrefix_of_isPunctuatorOf (List.find?_some hmark)).length_le
  | case2 => exact Nat.zero_le _

theorem operator_le (text : Text) : operator text ≤ text.length := by
  unfold operator
  split
  · exact Nat.zero_le _
  · exact Nat.zero_le _
  · exact firstMark_le _ _

theorem equalsSign_le (text : Text) : equalsSign text ≤ text.length := by
  fun_cases equalsSign text <;> simp

theorem punctuator_le (text : Text) : punctuator text ≤ text.length := by
  unfold punctuator
  split
  · next n hn => exact Nat.le_trans (Nat.le_of_eq hn.symm) (firstMark_le _ _)
  · split
    · next n hn =>
      have hoperator := Nat.le_trans (Nat.le_of_eq hn.symm) (operator_le text)
      exact add_le_of_le_drop hoperator (equalsSign_le _)
    · exact firstMark_le _ _

/-! ## Quoted lexemes and regular expressions -/

theorem stringBody_le (quote : Char) (text : Text) : stringBody quote text ≤ text.length := by
  fun_induction stringBody quote text <;> simp_all

theorem string_le (text : Text) : string text ≤ text.length := by
  fun_cases string text with
  | case1 quote rest => simpa using stringBody_le quote rest
  | _ => exact Nat.zero_le _

theorem templateBody_le (text : Text) : (templateBody text).length ≤ text.length := by
  fun_induction templateBody text <;> simp_all [TemplatePiece.after]

theorem regexBody_le (inClass : Bool) (text : Text) : regexBody inClass text ≤ text.length := by
  fun_induction regexBody inClass text <;> simp_all [runLength_le]

theorem regex_le (text : Text) : regex text ≤ text.length := by
  fun_cases regex text with
  | case3 rest => simpa using regexBody_le false rest
  | _ => exact Nat.zero_le _

/-! ## JSX -/

theorem jsxName_le (text : Text) : jsxName text ≤ text.length := by
  unfold jsxName
  split
  · split
    · exact runLength_le _ _
    · exact Nat.zero_le _
  · exact Nat.zero_le _

theorem throughQuote_le (quote : Char) (text : Text) :
    throughQuote quote text ≤ text.length := by
  fun_induction throughQuote quote text <;> simp_all

theorem jsxValue_le (text : Text) : jsxValue text ≤ text.length := by
  fun_cases jsxValue text with
  | case1 quote rest => simpa using throughQuote_le quote rest
  | _ => exact Nat.zero_le _

theorem jsxContent_le (text : Text) : jsxContent text ≤ text.length := runLength_le _ _

end Lexeme
end SyntaxColor
