/-
  The grammar of names.

  A name begins with a character that begins names or with an escape, and goes on with characters
  that continue names and with escapes; a private name has a `#` before that.  The scanner asks less
  of the beginning: it lets any backslash pass, and leaves it to the parts of the name to find the
  escape.

  `IsName`: the grammar, apart from the scanner.
  `NameParts.isPlainName`: the parts that the scanner finds begin as they have to.
  `plainName_ne_zero_iff`: where the scanner finds a name.
  `name_isLongest`: the scanner finds the longest name that the text begins with.
-/
import SyntaxColor.Proofs.Lexeme.Shape

namespace SyntaxColor.Lexeme

open Unicode

/-! ## The grammar -/

/-- A name that is not private. -/
inductive IsPlainName : Text → Prop
  | char {c : Char} {parts : Text} (hc : beginsName c = true) (h : NameParts parts) :
      IsPlainName (c :: parts)
  | escape {escape parts : Text} (hescape : IsNameEscape escape) (h : NameParts parts) :
      IsPlainName (escape ++ parts)

/-- A name. -/
inductive IsName : Text → Prop
  | plain {lexeme : Text} (h : IsPlainName lexeme) : IsName lexeme
  /-- A private name. -/
  | hash {lexeme : Text} (h : IsPlainName lexeme) : IsName ('#' :: lexeme)

/-- Whether a name that is not private begins at the start of the text. -/
def BeginsPlainName (text : Text) : Prop :=
  (∃ c, text.head? = some c ∧ beginsName c = true) ∨
    ∃ escape, IsNameEscape escape ∧ escape <+: text

/-! ## What the scanner finds -/

section Sound

variable {text parts : Text} {c : Char}

theorem IsNameEscape.head? {escape : Text} (h : IsNameEscape escape) :
    escape.head? = some '\\' := by
  cases h <;> rfl

/-- A backslash continues no name, so that the parts can only begin with it in an escape. -/
theorem NameParts.isPlainName (h : NameParts parts) (hhead : parts.head? = some c)
    (hc : beginsName c = true ∨ c = '\\') : IsPlainName parts := by
  cases h with
  | nil => cases hhead
  | @char d parts hd h =>
    obtain rfl := Option.some.inj hhead
    obtain hc | rfl := hc
    · exact .char hc h
    · have hbackslash : continuesName '\\' = false := by decide
      rw [hbackslash] at hd
      cases hd
  | escape hescape h => exact .escape hescape h

theorem isPlainName_take (h : plainName text ≠ 0) :
    IsPlainName (text.take (plainName text)) := by
  obtain ⟨parts, hparts, -, htake⟩ := exists_parts_of_plainName h
  have hhead : parts.head? = text.head? := by rw [← htake, List.head?_take, if_neg h]
  rw [htake]
  revert h
  fun_cases plainName text with
  | case1 c rest hc =>
    intro _
    exact hparts.isPlainName hhead (by simpa using hc)
  | case2 => exact fun h => absurd rfl h
  | case3 => exact fun h => absurd rfl h

theorem isName_take (h : name text ≠ 0) : IsName (text.take (name text)) := by
  revert h
  fun_cases name text with
  | case1 => exact fun h => absurd rfl h
  | case2 rest hrest => exact fun _ => .hash (isPlainName_take hrest)
  | case3 => exact fun h => .plain (isPlainName_take h)

end Sound

/-! ## No longer name -/

section Complete

variable {lexeme text : Text}

/-- What begins a name also continues one, so that a name consists of parts from its start. -/
theorem IsPlainName.parts (h : IsPlainName lexeme) : NameParts lexeme := by
  cases h with
  | char hc h => exact .char (continuesName_of_beginsName hc) h
  | escape hescape h => exact .escape hescape h

theorem IsPlainName.head? (h : IsPlainName lexeme) :
    ∃ c, lexeme.head? = some c ∧ (beginsName c = true ∨ c = '\\') := by
  cases h with
  | @char c _ hc => exact ⟨c, rfl, .inl hc⟩
  | escape hescape => exact ⟨'\\', by simp [List.head?_append, hescape.head?], .inr rfl⟩

theorem IsPlainName.ne_nil (h : IsPlainName lexeme) : lexeme ≠ [] := by
  rintro rfl
  obtain ⟨c, hhead, -⟩ := h.head?
  cases hhead

/-- The scanner reads at least all of a name, whatever is behind it. -/
theorem IsPlainName.length_le_plainName (h : IsPlainName lexeme) (rest : Text) :
    lexeme.length ≤ plainName (lexeme ++ rest) := by
  obtain ⟨c, hhead, hc⟩ := h.head?
  have hparts := h.parts.nameParts_add rest
  obtain ⟨more, rfl⟩ := List.head?_eq_some_iff.1 hhead
  have hplain : plainName (c :: more ++ rest) = nameParts 0 (c :: more ++ rest) :=
    if_pos (by simpa using hc)
  omega

/-- The scanner finds a name where one begins, and nowhere else. -/
theorem plainName_ne_zero_iff : plainName text ≠ 0 ↔ BeginsPlainName text := by
  constructor
  · intro h
    have hprefix := List.take_prefix (plainName text) text
    have hname := isPlainName_take h
    generalize text.take (plainName text) = lexeme at hprefix hname
    obtain ⟨rest, rfl⟩ := hprefix
    cases hname with
    | char hc => exact .inl ⟨_, rfl, hc⟩
    | escape hescape => exact .inr ⟨_, hescape, _, (List.append_assoc _ _ _).symm⟩
  · have hread : ∀ {lexeme rest : Text}, IsPlainName lexeme → plainName (lexeme ++ rest) ≠ 0 := by
      intro lexeme rest hname
      have hpos := List.length_pos_iff.2 hname.ne_nil
      have hle := hname.length_le_plainName rest
      omega
    rintro (⟨c, hhead, hc⟩ | ⟨escape, hescape, rest, rfl⟩)
    · obtain ⟨rest, rfl⟩ := List.head?_eq_some_iff.1 hhead
      exact hread (.char hc .nil)
    · rw [← List.append_nil escape]
      exact hread (.escape hescape .nil)

theorem IsName.length_le_name (h : IsName lexeme) (rest : Text) :
    lexeme.length ≤ name (lexeme ++ rest) := by
  cases h with
  | plain h =>
    obtain ⟨c, hhead, hc⟩ := h.head?
    have hle := h.length_le_plainName rest
    obtain ⟨more, rfl⟩ := List.head?_eq_some_iff.1 hhead
    have hhash : c ≠ '#' := by
      rintro rfl
      revert hc
      decide
    rwa [List.cons_append, name]
    rintro _ ⟨⟩
    exact hhash rfl
  | @hash lexeme h =>
    have hle := h.length_le_plainName rest
    have hpos := List.length_pos_iff.2 h.ne_nil
    rw [List.cons_append, name, if_neg (by omega), List.length_cons]
    omega

theorem IsName.ne_nil (h : IsName lexeme) : lexeme ≠ [] := by
  cases h with
  | plain h => exact h.ne_nil
  | hash => exact List.cons_ne_nil _ _

end Complete

/-- The scanner for names, which lets any backslash pass at the beginning and looks ahead for the
    end of each escape, finds the longest beginning of the text that is a name, and nothing if there
    is none. -/
theorem name_isLongest (text : Text) : IsLongest IsName text (name text) := by
  refine isLongest_of (fun h => h.ne_nil rfl) (name_le text) isName_take ?_
  rintro lexeme rest rfl h
  exact h.length_le_name rest

-- The second escape has no closing brace, so that the name ends before it.
example : name "#\\u0061b\\u\x7b63d".toList = 8 := by decide +kernel

end SyntaxColor.Lexeme
