/-
  What the last landmark tells of the tokens before it.

  `Remembers`: whether the last token that is no trivia was a control keyword, or in script the
  point of a property access, can be seen from the landmark alone.  Every step keeps this
  (`Remembers.step`), and with that every run (`Reached.remembers`).

  `Reached.over_trivia`: trivia change nothing about what may follow.
-/
import SyntaxColor.Proofs.Brackets.Shift
import SyntaxColor.Proofs.Token.Stray

namespace SyntaxColor

/-! ## Tokens looked back on -/

/-- Whether tokens of this kind only separate others. -/
def Kind.isTrivia : Kind → Bool
  | .whitespace | .lineBreak | .blockComment | .lineComment => true
  | _ => false

/-- Whether the token is the point of a property access. -/
def Token.isPoint (token : Token) : Bool :=
  token = ⟨.punctuator, ['.']⟩ || token = ⟨.punctuator, ['?', '.']⟩

/-- Of the tokens so far, the last one first, those that are no trivia. -/
def significant (past : List Token) : List Token := past.filter fun token => !token.kind.isTrivia

/-- Whether the last of the tokens so far is a control keyword, and no name behind a point;
    trivia do not count. -/
def endsInControlKeyword (past : List Token) : Bool :=
  match significant past with
  | ⟨.identifier, word⟩ :: before =>
    word ∈ Word.controlKeywords && !before.head?.any Token.isPoint
  | _ => false

/-- Whether tokens of this kind are neither trivia nor looked back for. -/
def Kind.isPassing : Kind → Bool
  | .identifier | .punctuator => false
  | kind => !kind.isTrivia

theorem kind_of_isPassing {kind : Kind} (h : kind.isPassing = true) :
    kind.isTrivia = false ∧ kind ≠ .identifier ∧ kind ≠ .punctuator := by
  revert h
  cases kind <;> decide

/-- Whether the landmark is a control keyword. -/
def Landmark.isControlKeyword : Landmark → Bool
  | .controlKeyword => true
  | _ => false

theorem Landmark.isControlKeyword_iff {last : Landmark} :
    last.isControlKeyword = true ↔ last = .controlKeyword := by
  cases last <;> simp [isControlKeyword]

/-- Whether the landmark is the point of a property access, or a text that looks like it. -/
def Landmark.isPoint (last : Landmark) : Bool :=
  last = .token ['.'] || last = .token ['?', '.']

/-- The context tells what the tokens so far end in. -/
structure Remembers (s : Context) (past : List Token) : Prop where
  controlKeyword : s.last.isControlKeyword = endsInControlKeyword past
  point : s.region.isJsx = false → s.last.isPoint = (significant past).head?.any Token.isPoint

/-! ## What a step leaves as the landmark -/

/-- What a token leaves as the landmark. -/
inductive Marks (s : Context) : Token → Context → Prop
  | trivia {token : Token} {next : Context} (hkind : token.kind.isTrivia = true)
      (hregion : next.region = s.region)
      (hlast : next.last = s.last ∨
        next.last = .jumpLineBreak ∧ ∃ word ∈ Word.jumpKeywords, s.last = .token word) :
      Marks s token next
  | name {word : Text} {next : Context} (hregion : s.region.isJsx = false)
      (hlast : next.last = Rule.nameLandmark s word) (hpoint : next.last.isPoint = false) :
      Marks s ⟨.identifier, word⟩ next
  | punctuator {mark : Text} {next : Context} (hlast : next.last.isControlKeyword = false)
      (hpoint : next.last.isPoint = Token.isPoint ⟨.punctuator, mark⟩) :
      Marks s ⟨.punctuator, mark⟩ next
  | other {token : Token} {next : Context} (hkind : token.kind.isPassing = true)
      (hlast : next.last.isControlKeyword = false)
      (hpoint : next.region.isJsx = false → next.last.isPoint = false) :
      Marks s token next

section Steps

variable {s : Context} {text : Text}

theorem isPoint_take {c : Char} (hhead : text.head? = some c) (hc : c ≠ '.' ∧ c ≠ '?') (n : Nat) :
    (Landmark.token (text.take n)).isPoint = false := by
  obtain ⟨rest, rfl⟩ := List.head?_eq_some_iff.1 hhead
  cases n with
  | zero => rfl
  | succ n => simp [Landmark.isPoint, hc]

theorem isPoint_take_regex (h : Lexeme.regex text ≠ 0) (n : Nat) :
    (Landmark.token (text.take n)).isPoint = false :=
  isPoint_take (Lexeme.head?_of_regex h) (by decide) n

theorem isPoint_take_string (h : Lexeme.string text ≠ 0) (n : Nat) :
    (Landmark.token (text.take n)).isPoint = false := by
  obtain ⟨quote, hhead, hquote⟩ := Lexeme.head?_of_string h
  refine isPoint_take hhead ?_ n
  constructor <;> rintro rfl <;> simp [Lexeme.isQuote] at hquote

theorem isPoint_take_name (h : Lexeme.name text ≠ 0) (n : Nat) :
    (Landmark.token (text.take n)).isPoint = false := by
  obtain ⟨c, hhead, hc⟩ := Lexeme.head?_of_name h
  have hpoint : Unicode.beginsName '.' = false := by decide
  have hquestion : Unicode.beginsName '?' = false := by decide
  refine isPoint_take hhead ?_ n
  constructor <;> rintro rfl <;> simp_all

theorem isPoint_take_number (h : Lexeme.number text ≠ 0) :
    (Landmark.token (text.take (Lexeme.number text))).isPoint = false := by
  cases text with
  | nil => exact absurd rfl h
  | cons c rest =>
    by_cases hpoint : c = '.'
    · subst hpoint
      -- A point is only part of a number with a digit behind it, so the lexeme is longer.
      obtain ⟨n, hn⟩ : ∃ n, Lexeme.number ('.' :: rest) = n + 2 := by
        have := Lexeme.number_point_ne_one rest
        exact ⟨Lexeme.number ('.' :: rest) - 2, by omega⟩
      have hle := Lexeme.number_le ('.' :: rest)
      cases rest with
      | nil => simp [hn] at hle
      | cons d rest => simp [hn, Landmark.isPoint]
    · refine isPoint_take (c := c) rfl ⟨hpoint, ?_⟩ _
      rintro rfl
      exact h (Lexeme.number_eq_zero rfl hpoint rest)

/-- In script, a character that no rule reads is no part of a point. -/
theorem ne_point_of_stray {jsx : Bool} {c : Char} {rest : Text}
    (hregion : s.region.isJsx = false)
    (hrules : ∀ rule ∈ s.region.rules jsx, rule s (c :: rest) = none) : c ≠ '.' ∧ c ≠ '?' := by
  have hodd := (beginsNoToken_of_rules hrules).mem_oddCharacters hregion
  constructor
  · rintro rfl
    exact absurd (hodd (by decide)) (by decide)
  · rintro rfl
    exact absurd (hodd (by decide)) (by decide)

theorem marks_punctuator (s : Context) (mark : Text) :
    Marks s ⟨.punctuator, mark⟩ (s.afterPunctuator mark) := by
  unfold Context.afterPunctuator
  split
  · exact .punctuator rfl rfl
  · unfold Context.closeParen
    dsimp only
    split
    · exact .punctuator rfl rfl
    · exact .punctuator rfl rfl
  · exact .punctuator rfl rfl
  · unfold Context.closeBrace
    dsimp only
    split
    · exact .punctuator rfl rfl
    · exact .punctuator rfl rfl
  · exact .punctuator rfl rfl
  · unfold Context.update
    cases s.operandBefore <;> exact .punctuator rfl rfl
  · unfold Context.update
    cases s.operandBefore <;> exact .punctuator rfl rfl
  · refine .punctuator rfl ?_
    simp [Context.afterOperator, Context.seen, Context.withOperand, Landmark.isPoint, Token.isPoint]

theorem last_breakLine (s : Context) : s.breakLine.last = s.last ∨
    s.breakLine.last = .jumpLineBreak ∧ ∃ word ∈ Word.jumpKeywords, s.last = .token word := by
  unfold Context.breakLine
  split
  · next word hlast =>
    split
    · next hword => exact .inr ⟨rfl, word, hword, hlast⟩
    · exact .inl rfl
  · exact .inl rfl

theorem region_breakLine (s : Context) : s.breakLine.region = s.region := by
  unfold Context.breakLine
  split
  · split <;> rfl
  · rfl

theorem isPoint_nameLandmark (h : Lexeme.name text ≠ 0) :
    (Rule.nameLandmark s (text.take (Lexeme.name text))).isPoint = false := by
  unfold Rule.nameLandmark
  split
  · rfl
  · exact isPoint_take_name h _

/-- A private name is no control keyword. -/
theorem nameLandmark_of_hash (hhash : text.head? = some '#') (n : Nat) :
    (Rule.nameLandmark s (text.take n)).isControlKeyword = false := by
  obtain ⟨rest, rfl⟩ := List.head?_eq_some_iff.1 hhash
  have hwords : ∀ word ∈ Word.controlKeywords, word ≠ [] ∧ word.head? ≠ some '#' := by decide
  unfold Rule.nameLandmark
  split
  · next hword =>
    obtain ⟨hne, hhead⟩ := hwords _ hword.1
    cases n with
    | zero => exact absurd rfl hne
    | succ n => exact absurd rfl hhead
  · rfl

theorem marks_of_tag {token : Token} {next : Context} (hkind : token.kind.isPassing = true)
    (hlast : next.last.isControlKeyword = false) (hregion : next.region.isJsx = true) :
    Marks s token next := by
  refine .other hkind hlast fun hscript => ?_
  rw [hregion] at hscript
  cases hscript

/-- What a step leaves as the landmark. -/
theorem marks_step {jsx : Bool} {step : Step} (h : Takes jsx s text step) :
    Marks s (step.entry text).1 step.next := by
  cases h with
  | regex _ _ hlength =>
    exact .other rfl rfl fun _ => isPoint_take_regex hlength _
  | string _ hlength =>
    exact .other rfl rfl fun _ => isPoint_take_string hlength _
  | number _ hlength =>
    exact .other rfl rfl fun _ => isPoint_take_number hlength
  | templateTail =>
    exact .other rfl rfl fun _ => isPoint_take (c := '}') rfl (by decide) _
  | template =>
    exact .other rfl rfl fun _ => isPoint_take (c := '\x60') rfl (by decide) _
  | templateMiddle | templateHead | jsxHoleEnd | tagStart | openTag | childTag | openHole
  | childHole => exact .other rfl rfl fun _ => rfl
  | punctuator => exact marks_punctuator s _
  | identifier hregion hlength => exact .name hregion rfl (isPoint_nameLandmark hlength)
  | privateName _ hlength hhead =>
    exact .other rfl (nameLandmark_of_hash hhead _) fun _ => isPoint_nameLandmark hlength
  | closeTag =>
    dsimp only [Context.closeTag]
    split
    · exact .other rfl rfl fun _ => rfl
    · exact .other rfl rfl fun _ => rfl
  | slash =>
    dsimp only [Context.slashInTag]
    split
    · exact .other rfl rfl fun _ => rfl
    · exact .other rfl rfl fun _ => rfl
  | otherMark hregion | jsxName hregion | jsxValue hregion =>
    exact marks_of_tag rfl rfl (isJsx_of_tag hregion)
  | jsxContent hregion =>
    have hjsx : s.region.isJsx = true := by rw [hregion]; rfl
    exact marks_of_tag rfl rfl hjsx
  | whitespace | lineComment => exact .trivia rfl rfl (.inl rfl)
  | lineBreak => exact .trivia rfl (region_breakLine s) (last_breakLine s)
  | blockComment =>
    dsimp only
    split
    · exact .trivia rfl (region_breakLine s) (last_breakLine s)
    · exact .trivia rfl rfl (.inl rfl)
  | @stray c rest hregion hrules =>
    have hpoint : (Landmark.token ((c :: rest).take 1)).isPoint = false :=
      isPoint_take rfl (ne_point_of_stray hregion hrules) 1
    exact .other rfl rfl fun _ => hpoint
  | jsxStray hregion => exact marks_of_tag rfl rfl hregion

end Steps

/-! ## Every run -/

theorem significant_of_isTrivia {token : Token} {past : List Token}
    (h : token.kind.isTrivia = true) : significant (token :: past) = significant past := by
  simp [significant, h]

theorem significant_cons {token : Token} {past : List Token} (h : token.kind.isTrivia = false) :
    significant (token :: past) = token :: significant past := by
  simp [significant, h]

theorem endsInControlKeyword_of_kind {token : Token} {past : List Token}
    (htrivia : token.kind.isTrivia = false) (hname : token.kind ≠ .identifier) :
    endsInControlKeyword (token :: past) = false := by
  unfold endsInControlKeyword
  rw [significant_cons htrivia]
  split
  · next heq =>
    obtain ⟨rfl, -⟩ := List.cons.inj heq
    exact absurd rfl hname
  · rfl

theorem endsInControlKeyword_of_isTrivia {token : Token} {past : List Token}
    (h : token.kind.isTrivia = true) :
    endsInControlKeyword (token :: past) = endsInControlKeyword past := by
  rw [endsInControlKeyword, significant_of_isTrivia h, endsInControlKeyword]

theorem isControlKeyword_nameLandmark (s : Context) (word : Text) :
    (Rule.nameLandmark s word).isControlKeyword =
      (word ∈ Word.controlKeywords && !s.last.isPoint) := by
  unfold Rule.nameLandmark
  split
  · next h => simp [Landmark.isControlKeyword, Landmark.isPoint, h]
  · next h =>
    have hnone : ¬ (word ∈ Word.controlKeywords ∧ s.last.isPoint = false) := by
      simpa [Landmark.isPoint] using h
    simpa [Landmark.isControlKeyword] using hnone

/-- Every step keeps in mind what the tokens end in. -/
theorem Remembers.step {s next : Context} {token : Token} {past : List Token}
    (h : Remembers s past) (hmarks : Marks s token next) : Remembers next (token :: past) := by
  cases hmarks with
  | trivia hkind hregion hlast =>
    obtain hlast | ⟨hlast, word, hword, hbefore⟩ := hlast
    · constructor
      · rw [hlast, endsInControlKeyword_of_isTrivia hkind]
        exact h.controlKeyword
      · rw [hregion, hlast, significant_of_isTrivia hkind]
        exact h.point
    · have hwords : ∀ word ∈ Word.jumpKeywords, (Landmark.token word).isPoint = false := by decide
      constructor
      · rw [hlast, endsInControlKeyword_of_isTrivia hkind, ← h.controlKeyword, hbefore]
        rfl
      · rw [hregion, hlast, significant_of_isTrivia hkind]
        intro hscript
        rw [← h.point hscript, hbefore, hwords word hword]
        rfl
  | @name word _ hregion hlast hpoint =>
    have hsignificant : significant (⟨.identifier, word⟩ :: past) =
        ⟨.identifier, word⟩ :: significant past := significant_cons rfl
    constructor
    · rw [hlast, isControlKeyword_nameLandmark, endsInControlKeyword, hsignificant,
        h.point hregion]
    · intro _
      rw [hpoint, hsignificant]
      rfl
  | @punctuator mark _ hlast hpoint =>
    constructor
    · rw [hlast, endsInControlKeyword_of_kind rfl (by simp)]
    · intro _
      rw [hpoint, significant_cons rfl]
      rfl
  | other hkind hlast hpoint =>
    obtain ⟨htrivia, hname, hmark⟩ := kind_of_isPassing hkind
    constructor
    · rw [hlast, endsInControlKeyword_of_kind htrivia hname]
    · intro hscript
      have hpast : token.isPoint = false := by
        simp only [Token.isPoint, Bool.or_eq_false_iff, decide_eq_false_iff_not]
        constructor <;> rintro rfl <;> exact hmark rfl
      rw [hpoint hscript, significant_cons htrivia]
      exact hpast.symm

/-- The tokens that were read, the last one first. -/
def pastOf (seen : List Entry) : List Token := (seen.map Prod.fst).reverse

theorem pastOf_append (seen : List Entry) (entry : Entry) :
    pastOf (seen ++ [entry]) = entry.1 :: pastOf seen := by
  simp [pastOf]

/-- Wherever the lexer comes, it remembers what it has read. -/
theorem Reached.remembers {jsx : Bool} {text rest : Text} {seen : List Entry} {s : Context}
    (h : Reached jsx text seen s rest) : Remembers s (pastOf seen) := by
  induction h with
  | start => exact ⟨rfl, fun _ => rfl⟩
  | hashbang => exact ⟨rfl, fun _ => rfl⟩
  | @step _ s rest _ hrest _ ih =>
    rw [pastOf_append]
    exact ih.step (marks_step (takes_step jsx s hrest))

/-! ## Trivia -/

/-- Trivia stay in the region, and change nothing about what may follow. -/
theorem Marks.of_isTrivia {s next : Context} {token : Token} (h : Marks s token next)
    (hkind : token.kind.isTrivia = true) :
    next.region = s.region ∧ next.last.expressionMayFollow = s.last.expressionMayFollow := by
  cases h with
  | trivia _ hregion hlast =>
    have hwords : ∀ word ∈ Word.jumpKeywords,
        (Landmark.token word).expressionMayFollow = true := by decide
    obtain hlast | ⟨hlast, word, hword, hbefore⟩ := hlast
    · exact ⟨hregion, by rw [hlast]⟩
    · refine ⟨hregion, ?_⟩
      rw [hlast, hbefore, hwords word hword]
      rfl
  | name => cases hkind
  | punctuator => cases hkind
  | other hpassing =>
    rw [(kind_of_isPassing hpassing).1] at hkind
    cases hkind

theorem Reached.over_trivia {jsx : Bool} {text rest : Text} {seen trivia : List Entry}
    {s : Context} (h : Reached jsx text (seen ++ trivia) s rest) (hseen : seen ≠ [])
    (htrivia : ∀ entry ∈ trivia, entry.1.kind.isTrivia = true) :
    s.region = (contextAfter {} seen).region ∧
      s.last.expressionMayFollow = (contextAfter {} seen).last.expressionMayFollow := by
  induction trivia generalizing seen with
  | nil =>
    rw [List.append_nil] at h
    rw [← h.context_eq]
    exact ⟨rfl, rfl⟩
  | cons entry trivia ih =>
    rw [List.append_cons] at h
    obtain ⟨hregion, hlast⟩ := ih h (by simp) fun e he => htrivia e (List.mem_cons_of_mem _ he)
    obtain ⟨_, _, hentry⟩ := h.of_append
    obtain ⟨s', rest', step, hreached, htakes, rfl⟩ := hentry.exists_takes hseen
    obtain ⟨hregion', hlast'⟩ :=
      (marks_step htakes).of_isTrivia (htrivia _ (List.mem_cons_self ..))
    rw [contextAfter_append] at hregion hlast
    rw [← hreached.context_eq]
    exact ⟨hregion.trans hregion', hlast.trans hlast'⟩

end SyntaxColor
