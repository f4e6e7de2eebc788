/-
  Characters and runs of them.

  Letters and digits are told by their code points, so that the class of a character says what it
  is not.

  `Text.of_forall`: what holds of every text of a class.
  `Text.isLineEnd_of_class`: a class without the line ends holds none.
  `Text.runLength_add`: a run goes over what is of its class, and on behind it.
-/
import SyntaxColor.Proofs.Lexeme.Length

namespace SyntaxColor

open Text Unicode

/-! ## Letters and digits -/

theorem toNat_of_isAlpha {c : Char} (h : c.isAlpha = true) : 65 ≤ c.toNat ∧ c.toNat ≤ 122 := by
  have hbounds : 65 ≤ c.toNat ∧ c.toNat ≤ 90 ∨ 97 ≤ c.toNat ∧ c.toNat ≤ 122 := by
    obtain hupper | hlower := Bool.or_eq_true_iff.1 h
    · exact .inl (of_decide_eq_true hupper)
    · obtain ⟨ha, hz⟩ := Bool.and_eq_true_iff.1 hlower
      exact .inr ⟨of_decide_eq_true ha, of_decide_eq_true hz⟩
  omega

theorem toNat_of_isDigit {c : Char} (h : c.isDigit = true) : 48 ≤ c.toNat ∧ c.toNat ≤ 57 := by
  simp only [Char.isDigit, Bool.and_eq_true, decide_eq_true_eq, ge_iff_le,
    UInt32.le_iff_toNat_le] at h
  exact h

theorem isAscii_of_isAlpha {c : Char} (h : c.isAlpha = true) : isAscii c = true := by
  have := toNat_of_isAlpha h
  simp only [isAscii, decide_eq_true_eq]
  omega

theorem beginsName_of_isAlpha {c : Char} (h : c.isAlpha = true) : beginsName c = true := by
  simp [beginsName, isAscii_of_isAlpha h, h]

theorem continuesName_of_isAlpha {c : Char} (h : c.isAlpha = true) : continuesName c = true :=
  continuesName_of_beginsName (beginsName_of_isAlpha h)

theorem ne_of_isAlpha {c d : Char} (h : c.isAlpha = true) (hd : d.isAlpha = false) : c ≠ d := by
  rintro rfl
  exact absurd h (by simp [hd])

theorem ne_of_isDigit {c d : Char} (h : c.isDigit = true) (hd : d.isDigit = false) : c ≠ d := by
  rintro rfl
  exact absurd h (by simp [hd])

theorem beginsName_of_isDigit {c : Char} (h : c.isDigit = true) : beginsName c = false := by
  have hbounds := toNat_of_isDigit h
  have hascii : isAscii c = true := by
    simp only [isAscii, decide_eq_true_eq]
    omega
  have halpha : c.isAlpha = false := by
    refine Bool.eq_false_iff.2 fun halpha => ?_
    have := toNat_of_isAlpha halpha
    omega
  simp [beginsName, hascii, halpha, ne_of_isDigit h]

theorem isBlank_of_isAlpha {c : Char} (h : c.isAlpha = true) : Lexeme.isBlank c = false := by
  have := toNat_of_isAlpha h
  simp only [Lexeme.isBlank, RangeTable.covers, List.any_eq_false, Bool.and_eq_true,
    decide_eq_true_eq, Lexeme.blankTable, List.forall_mem_cons, List.not_mem_nil, false_implies,
    implies_true, and_true]
  omega

theorem isDigit_of_isOctalDigit {c : Char} (h : Lexeme.isOctalDigit c = true) :
    c.isDigit = true := by
  simp only [Lexeme.isOctalDigit, Bool.and_eq_true, decide_eq_true_eq, Char.le_def,
    UInt32.le_iff_toNat_le] at h
  simp only [Char.isDigit, Bool.and_eq_true, decide_eq_true_eq, ge_iff_le,
    UInt32.le_iff_toNat_le]
  exact ⟨h.1, Nat.le_trans h.2 (by decide)⟩

/-! ## Line ends -/

/-- A character of a class ends no line if the class has none of those that do. -/
theorem Text.isLineEnd_of_class {p : Char → Bool}
    (hclass : ['\n', '\r', '\u2028', '\u2029'].any p = false) {c : Char} (hc : p c = true) :
    isLineEnd c = false := by
  refine Bool.eq_false_iff.2 fun hend => ?_
  have hmem : c ∈ ['\n', '\r', '\u2028', '\u2029'] := by simpa [isLineEnd, or_assoc] using hend
  exact List.any_eq_false.1 hclass c hmem hc

/-! ## Texts of a class -/

/-- What holds of no characters, and goes on to hold with one more of the class before it, holds of
    every text of the class. -/
theorem Text.of_forall {p : Char → Prop} {P : Text → Prop} (nil : P [])
    (cons : ∀ {c : Char} {rest : Text}, p c → P rest → P (c :: rest)) {text : Text}
    (h : ∀ c ∈ text, p c) : P text := by
  induction text with
  | nil => exact nil
  | cons c rest ih =>
    obtain ⟨hc, hrest⟩ := List.forall_mem_cons.1 h
    exact cons hc (ih hrest)

/-! ## Runs -/

theorem Text.take_runLength (p : Char → Bool) (text : Text) :
    text.take (text.runLength p) = text.takeWhile p :=
  (List.prefix_iff_eq_take.1 (List.takeWhile_prefix p)).symm

/-- A run goes over what is of its class, and on behind it. -/
theorem Text.runLength_add {p : Char → Bool} {text : Text} (htext : ∀ c ∈ text, p c = true)
    (rest : Text) : (text ++ rest).runLength p = text.length + rest.runLength p := by
  rw [runLength, List.takeWhile_append_of_pos htext, List.length_append, runLength]

theorem Text.runLength_append {p : Char → Bool} {text rest : Text}
    (htext : ∀ c ∈ text, p c = true) (hrest : ∀ c, rest.head? = some c → p c = false) :
    (text ++ rest).runLength p = text.length := by
  have hstop : rest.runLength p = 0 := by
    cases rest with
    | nil => rfl
    | cons c _ => simp [runLength, hrest c rfl]
  rw [runLength_add htext, hstop, Nat.add_zero]

/-- A run stops before the first character of another class. -/
theorem Text.runLength_append_le {p : Char → Bool} {c : Char} (hc : p c = false)
    (text rest : Text) : (text ++ c :: rest).runLength p ≤ text.length := by
  rw [runLength, List.takeWhile_append, List.takeWhile_cons_of_neg (by simp [hc]), List.append_nil]
  split
  · exact Nat.le_refl _
  · exact runLength_le p text

/-- A run of a larger class is no shorter. -/
theorem Text.runLength_mono {p q : Char → Bool} (h : ∀ c, p c = true → q c = true) (text : Text) :
    text.runLength p ≤ text.runLength q := by
  induction text with
  | nil => exact Nat.le_refl _
  | cons c rest ih =>
    cases hc : p c with
    | false => simp [runLength, hc]
    | true => simpa [runLength, hc, h c hc] using ih

end SyntaxColor
