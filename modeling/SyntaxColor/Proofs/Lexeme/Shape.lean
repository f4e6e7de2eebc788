/-
  What lexemes are made of.

  `MadeOf p text n`: the first `n` characters of the text are all of the class `p`.  Numbers,
  regular expressions and comments up to the end of a line are told by such a class.
  `NameParts`: a name is a sequence of characters and escapes; `exists_nameParts`: what the scanner
  for names finds is one.
-/
import SyntaxColor.Proofs.Lexeme.First

namespace SyntaxColor

open Text Unicode

/-! ## Characters of a class -/

/-- The first `n` characters of the text are all of the class `p`. -/
def MadeOf (p : Char → Bool) (text : Text) (n : Nat) : Prop := ∀ c ∈ text.take n, p c = true

section MadeOf

variable {p q : Char → Bool} {text : Text} {n m : Nat}

theorem madeOf_zero (p : Char → Bool) (text : Text) : MadeOf p text 0 := by
  simp [MadeOf]

theorem madeOf_cons {c : Char} :
    MadeOf p (c :: text) (n + 1) ↔ p c = true ∧ MadeOf p text n := by
  simp [MadeOf]

theorem MadeOf.add (h : MadeOf p text n) (h' : MadeOf p (text.drop n) m) :
    MadeOf p text (n + m) := by
  intro c hc
  rw [List.take_add, List.mem_append] at hc
  exact hc.elim (h c) (h' c)

theorem MadeOf.mono (h : MadeOf p text n) (hpq : ∀ c, p c = true → q c = true) :
    MadeOf q text n :=
  fun c hc => hpq c (h c hc)

/-- What is made of a class without line ends stays on its line. -/
theorem MadeOf.staysOnLine (h : MadeOf p text n)
    (hclass : ['\n', '\r', '\u2028', '\u2029'].any p = false) :
    MadeOf (fun c => !isLineEnd c) text n :=
  h.mono fun _ hc => by simp [isLineEnd_of_class hclass hc]

theorem madeOf_runLength (p : Char → Bool) (text : Text) : MadeOf p text (text.runLength p) := by
  intro c hc
  rw [take_runLength] at hc
  exact List.all_eq_true.1 List.all_takeWhile c hc

end MadeOf

namespace Lexeme

/-! ## Names -/

/-- An escape in a name. -/
inductive IsNameEscape : Text → Prop
  | short {h₁ h₂ h₃ h₄ : Char} (h : ∀ c ∈ [h₁, h₂, h₃, h₄], isHexDigit c = true) :
      IsNameEscape ['\\', 'u', h₁, h₂, h₃, h₄]
  | braced {digits : Text} (hne : digits ≠ []) (h : ∀ c ∈ digits, isHexDigit c = true) :
      IsNameEscape ('\\' :: 'u' :: '{' :: digits ++ ['}'])

/-- The characters and escapes of a name, one after another. -/
inductive NameParts : Text → Prop
  | nil : NameParts []
  | char {c : Char} {parts : Text} (hc : continuesName c = true) (h : NameParts parts) :
      NameParts (c :: parts)
  | escape {escape parts : Text} (hescape : IsNameEscape escape) (h : NameParts parts) :
      NameParts (escape ++ parts)

theorem isNameEscape_take {text : Text} (h : nameEscape text ≠ 0) :
    IsNameEscape (text.take (nameEscape text)) := by
  revert h
  fun_cases nameEscape text with
  | case1 rest digits hdigits =>
    intro _
    obtain ⟨hne, hclose⟩ := hdigits
    obtain ⟨more, hmore⟩ := List.head?_eq_some_iff.1 hclose
    have htake : rest.take (digits + 1) = rest.take digits ++ ['}'] := by
      rw [List.take_add, hmore]
      rfl
    have hescape : ('\\' :: 'u' :: '{' :: rest).take (digits + 4) =
        '\\' :: 'u' :: '{' :: rest.take digits ++ ['}'] := by
      simp [htake]
    rw [hescape]
    refine .braced ?_ (madeOf_runLength isHexDigit rest)
    rw [ne_eq, List.take_eq_nil_iff, not_or]
    refine ⟨hne, ?_⟩
    rintro rfl
    exact hne rfl
  | case3 h₁ h₂ h₃ h₄ rest _ hhex =>
    intro _
    refine .short ?_
    simpa [and_assoc] using hhex
  | _ => exact fun h => absurd rfl h

/-- Behind the characters that are still pending, the scanner finds parts of a name. -/
theorem exists_nameParts (pending : Nat) (text : Text) : ∃ parts, NameParts parts ∧
    text.take (nameParts pending text) = text.take pending ++ parts := by
  fun_induction nameParts pending text with
  | case1 pending => exact ⟨[], .nil, by simp⟩
  | case2 c rest pending ih =>
    obtain ⟨parts, hparts, htake⟩ := ih
    exact ⟨parts, hparts, by simp [htake]⟩
  | case3 c rest hc ih =>
    obtain ⟨parts, hparts, htake⟩ := ih
    exact ⟨c :: parts, .char hc hparts, by simpa using htake⟩
  | case4 c rest _ hnone => exact ⟨[], .nil, by simp⟩
  | case5 c rest _ pending hescape ih =>
    obtain ⟨parts, hparts, htake⟩ := ih
    refine ⟨(c :: rest).take (pending + 1) ++ parts, .escape ?_ hparts, by simp [htake]⟩
    rw [← Nat.succ_eq_add_one, ← hescape]
    exact isNameEscape_take (by simp [hescape])

/-- The scanner for escapes reads every one, whatever is behind it. -/
theorem IsNameEscape.nameEscape_append {escape : Text} (h : IsNameEscape escape) (rest : Text) :
    nameEscape (escape ++ rest) = escape.length := by
  have hclose : isHexDigit '}' = false := by decide
  cases h with
  | @short h₁ h₂ h₃ h₄ h =>
    have hopen : h₁ ≠ '{' := by
      rintro rfl
      exact absurd (h '{' (by simp)) (by decide)
    simp only [List.forall_mem_cons] at h
    simp [nameEscape, h]
  | @braced digits hne h =>
    have hrun : runLength isHexDigit (digits ++ '}' :: rest) = digits.length :=
      runLength_append h (by simp [hclose])
    simp [nameEscape, hrun, hne]

/-- The scanner for the parts of a name reads over those that there are. -/
theorem NameParts.nameParts_add {parts : Text} (h : NameParts parts) (rest : Text) :
    nameParts 0 (parts ++ rest) = parts.length + nameParts 0 rest := by
  have hpending : ∀ read rest : Text,
      nameParts read.length (read ++ rest) = read.length + nameParts 0 rest := by
    intro read rest
    induction read with
    | nil => simp
    | cons c read ih =>
      simp only [List.cons_append, List.length_cons, nameParts, ih]
      omega
  induction h with
  | nil => simp
  | char hc _ ih =>
    simp only [List.cons_append, nameParts, hc, if_true, ih, List.length_cons]
    omega
  | @escape escape parts hescape _ ih =>
    have hbackslash : continuesName '\\' = false := by decide
    have hread := hescape.nameEscape_append (parts ++ rest)
    obtain ⟨tail, rfl⟩ : ∃ tail, escape = '\\' :: tail := by cases hescape <;> exact ⟨_, rfl⟩
    rw [List.append_assoc, List.cons_append] at *
    simp only [nameParts, hbackslash, hread, List.length_cons, hpending, ih, List.length_append]
    simp
    omega

theorem toNat_of_isHexDigit {c : Char} (h : isHexDigit c = true) : c.toNat ≤ 102 := by
  simp only [isHexDigit, Bool.or_eq_true, Bool.and_eq_true, decide_eq_true_eq, Char.le_def,
    UInt32.le_iff_toNat_le] at h
  obtain (h | ⟨-, h⟩) | ⟨-, h⟩ := h
  · have := (toNat_of_isDigit h).2
    omega
  · exact h
  · exact Nat.le_trans h (by decide)

theorem continuesName_of_isHexDigit {c : Char} (h : isHexDigit c = true) :
    continuesName c = true := by
  have hascii : ∀ n < 103,
      isHexDigit (Char.ofNat n) = true → continuesName (Char.ofNat n) = true := by decide
  have hbound := toNat_of_isHexDigit h
  rw [← Char.ofNat_toNat c] at h ⊢
  exact hascii _ (by omega) h

theorem IsNameEscape.getLast? {escape : Text} (h : IsNameEscape escape) :
    ∃ c, escape.getLast? = some c ∧ (continuesName c = true ∨ c = '}') := by
  cases h with
  | @short _ _ _ h₄ h =>
    exact ⟨h₄, rfl, .inl (continuesName_of_isHexDigit (h h₄ (by simp)))⟩
  | braced => exact ⟨'}', List.getLast?_concat, .inr rfl⟩

/-- A name ends in a character that names are made of, or in the brace that closes an escape. -/
theorem NameParts.getLast? {parts : Text} {c : Char} (h : NameParts parts)
    (hlast : parts.getLast? = some c) : continuesName c = true ∨ c = '}' := by
  induction h with
  | nil => cases hlast
  | @char d parts hd _ ih =>
    rw [List.getLast?_cons] at hlast
    cases hmore : parts.getLast? with
    | none =>
      obtain rfl : d = c := by simpa [hmore] using hlast
      exact .inl hd
    | some e =>
      obtain rfl : e = c := by simpa [hmore] using hlast
      exact ih hmore
  | @escape escape parts hescape _ ih =>
    rw [List.getLast?_append] at hlast
    cases hmore : parts.getLast? with
    | none =>
      obtain ⟨e, he, hshape⟩ := hescape.getLast?
      obtain rfl : e = c := by simpa [hmore, he] using hlast
      exact hshape
    | some e =>
      obtain rfl : e = c := by simpa [hmore] using hlast
      exact ih hmore

/-- Only an escape brings a brace into a name. -/
theorem NameParts.brace_not_mem {parts : Text} (h : NameParts parts) (hescape : '\\' ∉ parts) :
    '}' ∉ parts := by
  induction h with
  | nil => simp
  | @char c parts hc _ ih =>
    have hbrace : continuesName '}' = false := by decide
    simp only [List.mem_cons, not_or] at hescape ⊢
    refine ⟨?_, ih hescape.2⟩
    rintro rfl
    rw [hbrace] at hc
    cases hc
  | escape h => cases h <;> simp at hescape

theorem exists_parts_of_plainName {text : Text} (h : plainName text ≠ 0) : ∃ parts,
    NameParts parts ∧ parts ≠ [] ∧ text.take (plainName text) = parts := by
  revert h
  fun_cases plainName text with
  | case1 c rest hc =>
    intro h
    obtain ⟨parts, hparts, htake⟩ := exists_nameParts 0 (c :: rest)
    refine ⟨parts, hparts, ?_, by simpa using htake⟩
    rintro rfl
    simp [h] at htake
  | case2 => exact fun h => absurd rfl h
  | case3 => exact fun h => absurd rfl h

/-- A name is made of parts, behind a `#` if it is private. -/
theorem exists_parts_of_name {text : Text} (h : name text ≠ 0) : ∃ parts, NameParts parts ∧
    parts ≠ [] ∧ (text.take (name text) = parts ∨ text.take (name text) = '#' :: parts) := by
  revert h
  fun_cases name text with
  | case1 => exact fun h => absurd rfl h
  | case2 rest hrest =>
    intro _
    obtain ⟨parts, hparts, hne, htake⟩ := exists_parts_of_plainName hrest
    exact ⟨parts, hparts, hne, .inr (by simp [htake])⟩
  | case3 =>
    intro h
    obtain ⟨parts, hparts, hne, htake⟩ := exists_parts_of_plainName h
    exact ⟨parts, hparts, hne, .inl htake⟩

/-- A name, private or not, ends as its parts do. -/
theorem getLast?_of_name {text : Text} (h : name text ≠ 0) : ∃ c,
    (text.take (name text)).getLast? = some c ∧ (continuesName c = true ∨ c = '}') := by
  obtain ⟨parts, hparts, hne, htake⟩ := exists_parts_of_name h
  obtain ⟨c, hlast⟩ := Option.ne_none_iff_exists'.1 (mt List.getLast?_eq_none_iff.1 hne)
  refine ⟨c, ?_, hparts.getLast? hlast⟩
  obtain htake | htake := htake
  · rw [htake, hlast]
  · rw [htake, List.getLast?_cons, hlast]
    rfl

/-- A name that is spelled without escapes has no brace. -/
theorem brace_not_mem_name {text : Text} (h : name text ≠ 0)
    (hescape : '\\' ∉ text.take (name text)) : '}' ∉ text.take (name text) := by
  obtain ⟨parts, hparts, -, htake⟩ := exists_parts_of_name h
  obtain htake | htake := htake
  · rw [htake] at hescape ⊢
    exact hparts.brace_not_mem hescape
  · rw [htake, List.mem_cons, not_or] at hescape ⊢
    exact ⟨by decide, hparts.brace_not_mem hescape.2⟩

/-- No line ends inside a name. -/
theorem isLineEnd_of_continuesName {c : Char} (h : continuesName c = true) :
    isLineEnd c = false :=
  isLineEnd_of_class (by decide +kernel) h

theorem IsNameEscape.isLineEnd {escape : Text} (h : IsNameEscape escape) :
    ∀ c ∈ escape, isLineEnd c = false := by
  have hdigit : ∀ c, isHexDigit c = true → Text.isLineEnd c = false :=
    fun c hc => isLineEnd_of_continuesName (continuesName_of_isHexDigit hc)
  cases h with
  | short h =>
    simp only [List.forall_mem_cons] at h ⊢
    obtain ⟨h₁, h₂, h₃, h₄, -⟩ := h
    exact ⟨by decide, by decide, hdigit _ h₁, hdigit _ h₂, hdigit _ h₃, hdigit _ h₄, by simp⟩
  | braced _ h =>
    simp only [List.cons_append, List.forall_mem_cons, List.forall_mem_append]
    exact ⟨by decide, by decide, by decide, fun c hc => hdigit c (h c hc), by decide, by simp⟩

/-- No line ends inside the parts of a name. -/
theorem NameParts.isLineEnd {parts : Text} (h : NameParts parts) :
    ∀ c ∈ parts, isLineEnd c = false := by
  induction h with
  | nil => simp
  | char hc _ ih => exact List.forall_mem_cons.2 ⟨isLineEnd_of_continuesName hc, ih⟩
  | escape hescape _ ih => exact List.forall_mem_append.2 ⟨hescape.isLineEnd, ih⟩

/-- A name stays on its line. -/
theorem madeOf_name (text : Text) : MadeOf (fun c => !isLineEnd c) text (name text) := by
  by_cases h : name text = 0
  · rw [h]
    exact madeOf_zero _ _
  · obtain ⟨parts, hparts, -, htake⟩ := exists_parts_of_name h
    intro c hc
    obtain htake | htake := htake
    · rw [htake] at hc
      simp [hparts.isLineEnd c hc]
    · rw [htake, List.mem_cons] at hc
      obtain rfl | hc := hc
      · decide
      · simp [hparts.isLineEnd c hc]

/-! ## Numbers -/

/-- Whether a number may have `c` in it. -/
def isNumberPart (c : Char) : Bool :=
  isHexDigit c || c ∈ ['x', 'X', 'o', 'O', 'n', '_', '.', '+', '-']

theorem isHexDigit_of_isDigit {c : Char} (h : c.isDigit = true) : isHexDigit c = true := by
  simp [isHexDigit, h]

theorem isHexDigit_of_radixDigit? {letter c : Char} {isDigit : Char → Bool}
    (h : radixDigit? letter = some isDigit) (hc : isDigit c = true) : isHexDigit c = true := by
  revert h
  fun_cases radixDigit? letter with
  | case1 | case2 =>
    rintro ⟨⟩
    exact hc
  | case3 | case4 =>
    rintro ⟨⟩
    exact isHexDigit_of_isDigit (isDigit_of_isOctalDigit hc)
  | case5 | case6 =>
    rintro ⟨⟩
    simp only [isBinaryDigit, Bool.or_eq_true, decide_eq_true_eq] at hc
    obtain rfl | rfl := hc <;> rfl
  | case7 => exact fun h => absurd h (by simp)

theorem madeOf_moreDigits (isDigit : Char → Bool) (text : Text) :
    MadeOf (fun c => isDigit c || c = '_') text (moreDigits isDigit text) := by
  fun_induction moreDigits isDigit text with
  | case1 d rest hd ih => simpa [madeOf_cons, hd] using ih
  | case3 d rest _ hd ih => simpa [madeOf_cons, hd] using ih
  | _ => exact madeOf_zero _ _

theorem madeOf_digits {isDigit : Char → Bool}
    (hdigit : ∀ c, isDigit c = true → isHexDigit c = true) (text : Text) :
    MadeOf isNumberPart text (digits isDigit text) := by
  have hpart : ∀ c, (isDigit c || c = '_') = true → isNumberPart c = true := by
    intro c hc
    simp only [Bool.or_eq_true, decide_eq_true_eq] at hc
    obtain hc | rfl := hc
    · simp [isNumberPart, hdigit c hc]
    · decide
  fun_cases digits isDigit text with
  | case1 d rest hd =>
    rw [madeOf_cons]
    exact ⟨hpart d (by simp [hd]), (madeOf_moreDigits isDigit rest).mono hpart⟩
  | _ => exact madeOf_zero _ _

theorem madeOf_bigMark (text : Text) : MadeOf isNumberPart text (bigMark text) := by
  fun_cases bigMark text with
  | case1 rest => exact madeOf_cons.2 ⟨by decide, madeOf_zero _ _⟩
  | case2 => exact madeOf_zero _ _

theorem madeOf_radixInteger (text : Text) : MadeOf isNumberPart text (radixInteger text) := by
  fun_cases radixInteger text with
  | case2 letter rest isDigit hradix n hn =>
    have hletter : isNumberPart letter = true := by
      revert hradix
      fun_cases radixDigit? letter with
      | case7 => exact fun h => absurd h (by simp)
      | _ => exact fun _ => by decide
    have hdigits : MadeOf isNumberPart rest (n + 1) := by
      rw [← Nat.succ_eq_add_one, ← hn]
      exact madeOf_digits (fun c => isHexDigit_of_radixDigit? hradix) rest
    have hall := hdigits.add (madeOf_bigMark (rest.drop (n + 1)))
    have hlength : 2 + (n + 1) + bigMark (rest.drop (n + 1)) =
        n + 1 + bigMark (rest.drop (n + 1)) + 1 + 1 := by omega
    rw [hlength]
    exact madeOf_cons.2 ⟨by decide, madeOf_cons.2 ⟨hletter, hall⟩⟩
  | _ => exact madeOf_zero _ _

theorem madeOf_positiveDigits (text : Text) :
    MadeOf isNumberPart text (positiveDigits text) := by
  unfold positiveDigits
  split
  · exact madeOf_zero _ _
  · exact madeOf_digits (fun _ => isHexDigit_of_isDigit) text

theorem madeOf_bigInteger (text : Text) : MadeOf isNumberPart text (bigInteger text) := by
  unfold bigInteger
  split
  · exact madeOf_cons.2 ⟨by decide, madeOf_cons.2 ⟨by decide, madeOf_zero _ _⟩⟩
  · dsimp only
    split
    · next h =>
      have hone : bigMark (text.drop (positiveDigits text)) = 1 := by
        have hmark := h.2
        revert hmark
        fun_cases bigMark (text.drop (positiveDigits text)) <;> simp
      have hall := (madeOf_positiveDigits text).add (madeOf_bigMark _)
      rwa [hone] at hall
    · exact madeOf_zero _ _

theorem madeOf_integerPart (text : Text) : MadeOf isNumberPart text (integerPart text) := by
  unfold integerPart
  split
  · dsimp only
    split
    · refine (madeOf_runLength Char.isDigit _).mono fun c hc => ?_
      simp [isNumberPart, isHexDigit_of_isDigit hc]
    · exact madeOf_zero _ _
  · exact madeOf_positiveDigits text

theorem madeOf_fractionPart (text : Text) : MadeOf isNumberPart text (fractionPart text) := by
  fun_cases fractionPart text with
  | case1 rest =>
    exact madeOf_cons.2 ⟨by decide, madeOf_digits (fun _ => isHexDigit_of_isDigit) rest⟩
  | case2 => exact madeOf_zero _ _

theorem madeOf_exponentSign (text : Text) : MadeOf isNumberPart text (exponentSign text) := by
  fun_cases exponentSign text with
  | case1 | case2 => exact madeOf_cons.2 ⟨by decide, madeOf_zero _ _⟩
  | case3 => exact madeOf_zero _ _

theorem madeOf_exponentPart (text : Text) : MadeOf isNumberPart text (exponentPart text) := by
  fun_cases exponentPart text with
  | case2 e rest he sign n hn =>
    have hletter : isNumberPart e = true := by
      simp only [Bool.or_eq_true, decide_eq_true_eq] at he
      obtain rfl | rfl := he <;> decide
    have hdigits : MadeOf isNumberPart (rest.drop sign) (n + 1) := by
      rw [← Nat.succ_eq_add_one, ← hn]
      exact madeOf_digits (fun _ => isHexDigit_of_isDigit) _
    have hall := (madeOf_exponentSign rest).add hdigits
    have hlength : 1 + sign + (n + 1) = exponentSign rest + (n + 1) + 1 := by
      show 1 + exponentSign rest + (n + 1) = _
      omega
    rw [hlength]
    exact madeOf_cons.2 ⟨hletter, hall⟩
  | _ => exact madeOf_zero _ _

theorem madeOf_mantissa (text : Text) : MadeOf isNumberPart text (mantissa text) := by
  unfold mantissa
  split
  · split
    · exact madeOf_zero _ _
    · exact madeOf_fractionPart text
  · next n hn =>
    rw [← Nat.succ_eq_add_one, ← hn]
    exact (madeOf_integerPart text).add (madeOf_fractionPart _)

theorem madeOf_decimal (text : Text) : MadeOf isNumberPart text (decimal text) := by
  unfold decimal
  split
  · exact madeOf_zero _ _
  · next n hn =>
    rw [← Nat.succ_eq_add_one, ← hn]
    exact (madeOf_mantissa text).add (madeOf_exponentPart _)

theorem madeOf_zeroOctal (text : Text) : MadeOf isNumberPart text (zeroOctal text) := by
  fun_cases zeroOctal text with
  | case2 rest n hn =>
    refine madeOf_cons.2 ⟨by decide, (madeOf_runLength isOctalDigit rest).mono fun c hc => ?_⟩
    simp [isNumberPart, isHexDigit_of_isDigit (isDigit_of_isOctalDigit hc)]
  | _ => exact madeOf_zero _ _

/-- A number has only digits, letters, underscores, points and signs. -/
theorem madeOf_number (text : Text) : MadeOf isNumberPart text (number text) := by
  have hways : ∀ n ∈ [radixInteger text, bigInteger text, decimal text, zeroOctal text],
      MadeOf isNumberPart text n := by
    simp [madeOf_radixInteger, madeOf_bigInteger, madeOf_decimal, madeOf_zeroOctal]
  exact hways _ (number_mem text)

/-! ## Regular expressions -/

theorem madeOf_regexBody (inClass : Bool) (text : Text) :
    MadeOf (fun c => !isLineEnd c) text (regexBody inClass text) := by
  fun_induction regexBody inClass text with
  | case1 => exact madeOf_zero _ _
  | case2 => exact madeOf_cons.2 ⟨by decide, madeOf_zero _ _⟩
  | case3 inClass e rest he => exact madeOf_cons.2 ⟨by decide, madeOf_zero _ _⟩
  | case4 inClass e rest he ih =>
    exact madeOf_cons.2 ⟨by decide, madeOf_cons.2 ⟨by simp [he], ih⟩⟩
  | case5 inClass c rest _ _ hc => exact madeOf_zero _ _
  | case6 inClass c rest _ _ hc hclose =>
    have hflags := (madeOf_runLength continuesName rest).staysOnLine (by decide +kernel)
    exact madeOf_cons.2 ⟨by simp [hc], hflags⟩
  | case7 inClass rest _ _ _ _ ih => exact madeOf_cons.2 ⟨by decide, ih⟩
  | case8 inClass rest _ _ _ _ _ ih => exact madeOf_cons.2 ⟨by decide, ih⟩
  | case9 inClass c rest _ _ hc _ _ _ ih => exact madeOf_cons.2 ⟨by simp [hc], ih⟩

/-- A regular expression stays on its line. -/
theorem madeOf_regex (text : Text) : MadeOf (fun c => !isLineEnd c) text (regex text) := by
  fun_cases regex text with
  | case3 rest => exact madeOf_cons.2 ⟨by decide, madeOf_regexBody false rest⟩
  | _ => exact madeOf_zero _ _

/-- What stands between the slashes of a regular expression; `inClass` tells whether a character
    class is open before it.  A slash may only stand in an escape or in a class. -/
inductive RegexBody : Bool → Text → Prop
  | nil : RegexBody false []
  | escape {inClass : Bool} {e : Char} {body : Text} (he : isLineEnd e = false)
      (h : RegexBody inClass body) : RegexBody inClass ('\\' :: e :: body)
  | openClass {inClass : Bool} {body : Text} (h : RegexBody true body) :
      RegexBody inClass ('[' :: body)
  | closeClass {inClass : Bool} {body : Text} (h : RegexBody false body) :
      RegexBody inClass (']' :: body)
  | char {inClass : Bool} {c : Char} {body : Text} (hend : isLineEnd c = false)
      (hc : c ∉ ['\\', '[', ']']) (hslash : c = '/' → inClass = true)
      (h : RegexBody inClass body) : RegexBody inClass (c :: body)

/-- The slash behind the body closes the expression, and the flags are what may follow in a name. -/
theorem RegexBody.regexBody_append {inClass : Bool} {body : Text} (h : RegexBody inClass body)
    (rest : Text) :
    regexBody inClass (body ++ '/' :: rest) =
      body.length + 1 + Text.runLength continuesName rest := by
  induction h with
  | nil =>
    have hslash : isLineEnd '/' = false := by decide
    simp [regexBody, hslash]
    omega
  | escape he _ ih =>
    simp [regexBody, he, ih]
    omega
  | openClass _ ih =>
    have hopen : isLineEnd '[' = false := by decide
    simp [regexBody, hopen, ih]
    omega
  | closeClass _ ih =>
    have hclose : isLineEnd ']' = false := by decide
    simp [regexBody, hclose, ih]
    omega
  | @char inClass c body hend hc hslash _ ih =>
    simp only [List.mem_cons, List.not_mem_nil, or_false, not_or] at hc
    have hopen : ¬ (c = '/' ∧ inClass = false) := by
      rintro ⟨rfl, hfalse⟩
      rw [hslash rfl] at hfalse
      cases hfalse
    simp [regexBody, hend, hc, hopen, ih]
    omega

theorem regex_slash {rest : Text} (h : regex ('/' :: rest) ≠ 0) :
    regex ('/' :: rest) = regexBody false rest + 1 := by
  revert h
  generalize htext : '/' :: rest = text
  fun_cases regex text with
  | case3 rest' =>
    obtain rfl := (List.cons.inj htext).2
    exact fun _ => rfl
  | _ => exact fun h => absurd rfl h

/-- Behind the slash that closes a regular expression it has only flags. -/
theorem continuesName_of_flags {text body flags : Text} (h : regex text ≠ 0)
    (hbody : RegexBody false body)
    (htake : text.take (regex text) = '/' :: body ++ '/' :: flags) :
    ∀ c ∈ flags, continuesName c = true := by
  have htext : text = '/' :: (body ++ '/' :: (flags ++ text.drop (regex text))) := by
    have := List.take_append_drop (regex text) text
    rw [htake] at this
    simpa using this.symm
  generalize text.drop (regex text) = rest at htext
  have hlength : regex text = body.length + 1 + Text.runLength continuesName (flags ++ rest) + 1 := by
    rw [htext] at h ⊢
    rw [regex_slash h, hbody.regexBody_append]
  have hall := congrArg List.length htake
  rw [List.length_take_of_le (regex_le text)] at hall
  simp only [List.length_append, List.length_cons] at hall
  have hflags : Text.runLength continuesName (flags ++ rest) = flags.length := by omega
  have hmade := madeOf_runLength continuesName (flags ++ rest)
  rw [hflags] at hmade
  intro c hc
  exact hmade c (by rwa [List.take_left])

/-! ## Comments -/

/-- A comment up to the end of its line stays on its line. -/
theorem madeOf_lineComment (text : Text) :
    MadeOf (fun c => !isLineEnd c) text (lineComment text) := by
  unfold lineComment
  split
  · exact madeOf_runLength _ _
  · exact madeOf_zero _ _

end Lexeme
end SyntaxColor
