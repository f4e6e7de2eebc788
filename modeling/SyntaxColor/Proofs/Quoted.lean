/-
  Quoted texts can be read back.

  `unquote?`: a reader of quoted texts, which knows the escapes but not which characters are
  written by one.
  `unquote?_quoted`: it gives back the text that was quoted, also where that looks escaped itself.
  `lineFeed_not_mem_quoted`: what is quoted stays on one line.
-/
import SyntaxColor.Text.Quoted

namespace SyntaxColor.Text

/-! ## Reading -/

/-- The character that an escape of two characters stands for. -/
def unescape? : Char → Option Char
  | '"' => some '"'
  | '\\' => some '\\'
  | 't' => some '\t'
  | 'r' => some '\r'
  | 'n' => some '\n'
  | '0' => some '\x00'
  | _ => none

/-- The value of a hexadecimal digit. -/
def hexDigit? (c : Char) : Option Nat :=
  if '0' ≤ c ∧ c ≤ '9' then some (c.toNat - '0'.toNat)
  else if 'a' ≤ c ∧ c ≤ 'f' then some (c.toNat - 'a'.toNat + 10)
  else none

/-- Where in a quoted text a reader is. -/
inductive QuotedPlace where
  /-- Between the characters. -/
  | text
  /-- Behind a backslash. -/
  | escape
  /-- Behind the letter that says that a code point follows. -/
  | codePoint
  /-- Between the braces around a code point, of which the digits so far have this value. -/
  | digits (value : Nat)

/-- The text that is quoted up to the closing quote, which ends what is read. -/
def readQuoted : QuotedPlace → Text → Option Text
  | _, [] => none
  | .text, c :: rest =>
    if c = '"' then if rest = [] then some [] else none
    else if c = '\\' then readQuoted .escape rest
    else (readQuoted .text rest).map (c :: ·)
  | .escape, c :: rest =>
    if c = 'u' then readQuoted .codePoint rest
    else (unescape? c).bind fun d => (readQuoted .text rest).map (d :: ·)
  | .codePoint, c :: rest => if c = '{' then readQuoted (.digits 0) rest else none
  | .digits value, c :: rest =>
    if c = '}' then (readQuoted .text rest).map (Char.ofNat value :: ·)
    else (hexDigit? c).bind fun digit => readQuoted (.digits (16 * value + digit)) rest

/-- The text that is quoted. -/
def unquote? : Text → Option Text
  | '"' :: rest => readQuoted .text rest
  | _ => none

/-! ## Hexadecimal digits -/

theorem hexDigit?_digitChar {digit : Nat} (h : digit < 16) :
    hexDigit? digit.digitChar = some digit := by
  have hall : ∀ digit < 16, hexDigit? (Nat.digitChar digit) = some digit := by decide
  exact hall digit h

theorem readQuoted_digitChar (value : Nat) {digit : Nat} (h : digit < 16) (rest : Text) :
    readQuoted (.digits value) (digit.digitChar :: rest) =
      readQuoted (.digits (16 * value + digit)) rest := by
  have hvalue := hexDigit?_digitChar h
  have hbrace : digit.digitChar ≠ '}' := by
    intro heq
    rw [heq] at hvalue
    cases hvalue
  rw [readQuoted, if_neg hbrace, hvalue, Option.bind_some]

/-- A number is written as one digit, or as another number is written and one digit more. -/
theorem toDigits_induction {motive : Nat → Text → Prop}
    (single : ∀ digit < 16, motive digit [digit.digitChar])
    (more : ∀ n, ∀ digit < 16, motive n (Nat.toDigits 16 n) →
      motive (16 * n + digit) (Nat.toDigits 16 n ++ [digit.digitChar])) (n : Nat) :
    motive n (Nat.toDigits 16 n) := by
  induction n using Nat.strongRecOn with
  | ind n ih =>
    rw [Nat.toDigits_eq_if (by decide)]
    split
    · next hsmall => exact single n hsmall
    · have hvalue : 16 * (n / 16) + n % 16 = n := Nat.div_add_mod n 16
      have hlonger := more (n / 16) (n % 16) (Nat.mod_lt n (by decide)) (ih (n / 16) (by omega))
      rwa [hvalue] at hlonger

/-- A number is read digit by digit. -/
theorem readQuoted_toDigits (n : Nat) (rest : Text) :
    readQuoted (.digits 0) (Nat.toDigits 16 n ++ rest) = readQuoted (.digits n) rest := by
  refine toDigits_induction (motive := fun n digits => ∀ rest,
    readQuoted (.digits 0) (digits ++ rest) = readQuoted (.digits n) rest)
    (fun digit hdigit rest => ?_) (fun n digit hdigit ih rest => ?_) n rest
  · simpa using readQuoted_digitChar 0 hdigit rest
  · rw [List.append_assoc, ih, List.singleton_append, readQuoted_digitChar n hdigit]

theorem hexDigit?_of_mem_toDigits {n : Nat} :
    ∀ c ∈ Nat.toDigits 16 n, (hexDigit? c).isSome = true := by
  refine toDigits_induction (motive := fun _ digits => ∀ c ∈ digits, (hexDigit? c).isSome = true)
    (fun digit hdigit => ?_) (fun n digit hdigit ih => List.forall_mem_append.2 ⟨ih, ?_⟩) n
  all_goals simp [hexDigit?_digitChar hdigit]

/-! ## Reading back -/

/-- A character is read as itself however it is written. -/
theorem readQuoted_quotedChar (c : Char) (rest : Text) :
    readQuoted .text (quotedChar c ++ rest) = (readQuoted .text rest).map (c :: ·) := by
  unfold quotedChar
  split
  case h_7 hquote hbackslash _ _ _ _ =>
    split
    · rw [List.singleton_append, readQuoted, if_neg hquote, if_neg hbackslash]
    · have hdigits := readQuoted_toDigits c.toNat ('}' :: rest)
      simp only [codePointEscape, List.append_assoc, List.cons_append, List.nil_append, readQuoted]
      simpa [readQuoted] using hdigits
  all_goals rfl

theorem readQuoted_flatMap (text rest : Text) :
    readQuoted .text (text.flatMap quotedChar ++ rest) =
      (readQuoted .text rest).map (text ++ ·) := by
  induction text with
  | nil => simp
  | cons c text ih =>
    rw [List.flatMap_cons, List.append_assoc, readQuoted_quotedChar, ih, Option.map_map]
    rfl

/-- What was quoted is read back. -/
theorem unquote?_quoted (text : Text) : unquote? text.quoted = some text := by
  have hbody := readQuoted_flatMap text ['"']
  simpa [quoted, unquote?, readQuoted] using hbody

/-! ## One line -/

theorem lineFeed_not_mem_quotedChar (c : Char) : '\n' ∉ quotedChar c := by
  unfold quotedChar
  split
  case h_7 hfeed _ =>
    split
    · simpa using Ne.symm hfeed
    · intro hmem
      have hdigit : '\n' ∈ Nat.toDigits 16 c.toNat := by simpa [codePointEscape] using hmem
      exact absurd (hexDigit?_of_mem_toDigits _ hdigit) (by decide)
  all_goals decide

/-- No line ends in a quoted text with a line feed. -/
theorem lineFeed_not_mem_quoted (text : Text) : '\n' ∉ text.quoted := by
  simp [quoted, lineFeed_not_mem_quotedChar]

end SyntaxColor.Text
