/-
  The grammar of regular expressions.

  A regular expression is closed by the first slash that stands neither in an escape nor in a
  character class.  The scanner keeps a flag for the class.  In the grammar a class is one item, up
  to its bracket: where the bracket is missing there is no class, and no slash behind it closes the
  expression.

  `RegexItems`: what may stand between the slashes, with the classes nested in it.
  `regexBody_iff`: it is what the scanner reads over with its flag.
  `regex_ends`: a regular expression ends with the flags behind its closing slash, or with its line.
-/
import SyntaxColor.Proofs.Lexeme.Settled

namespace SyntaxColor.Lexeme

open Text Unicode

/-! ## Items and classes -/

/-- What stands between the brackets of a character class: characters and escapes. -/
inductive ClassItems : Text → Prop
  | nil : ClassItems []
  | escape {e : Char} {items : Text} (he : isLineEnd e = false) (h : ClassItems items) :
      ClassItems ('\\' :: e :: items)
  | char {c : Char} {items : Text} (hc : c ∉ [']', '\\']) (hend : isLineEnd c = false)
      (h : ClassItems items) : ClassItems (c :: items)

/-- What stands between the slashes of a regular expression: characters, escapes and character
    classes. -/
inductive RegexItems : Text → Prop
  | nil : RegexItems []
  | escape {e : Char} {items : Text} (he : isLineEnd e = false) (h : RegexItems items) :
      RegexItems ('\\' :: e :: items)
  | charClass {content items : Text} (hcontent : ClassItems content) (h : RegexItems items) :
      RegexItems ('[' :: content ++ ']' :: items)
  | char {c : Char} {items : Text} (hc : c ∉ ['/', '[', '\\']) (hend : isLineEnd c = false)
      (h : RegexItems items) : RegexItems (c :: items)

section Bodies

variable {body content items : Text}

theorem ClassItems.regexBody (hcontent : ClassItems content) (h : RegexBody false items) :
    RegexBody true (content ++ ']' :: items) := by
  induction hcontent with
  | nil => exact .closeClass h
  | escape he _ ih => exact .escape he ih
  | @char c content hc hend _ ih =>
    simp only [List.mem_cons, List.not_mem_nil, or_false, not_or] at hc
    by_cases hopen : c = '['
    · subst hopen
      exact .openClass ih
    · exact .char hend (by simp [hc, hopen]) (fun _ => rfl) ih

theorem RegexItems.regexBody (h : RegexItems items) : RegexBody false items := by
  induction h with
  | nil => exact .nil
  | escape he _ ih => exact .escape he ih
  | charClass hcontent _ ih => exact .openClass (hcontent.regexBody ih)
  | @char c items hc hend _ ih =>
    simp only [List.mem_cons, List.not_mem_nil, or_false, not_or] at hc
    by_cases hclose : c = ']'
    · subst hclose
      exact .closeClass ih
    · exact .char hend (by simp [hc, hclose]) (fun hslash => absurd hslash hc.1) ih

/-- What the grammar has before the closing slash: items or, where a class is open, the rest of
    the class and the items behind it. -/
def ItemsFrom : Bool → Text → Prop
  | false, body => RegexItems body
  | true, body => ∃ content items, body = content ++ ']' :: items ∧ ClassItems content ∧
      RegexItems items

theorem RegexBody.itemsFrom {inClass : Bool} (h : RegexBody inClass body) :
    ItemsFrom inClass body := by
  induction h with
  | nil => exact .nil
  | @escape inClass e body he _ ih =>
    cases inClass with
    | false => exact .escape he ih
    | true =>
      obtain ⟨content, items, rfl, hcontent, hitems⟩ := ih
      exact ⟨'\\' :: e :: content, items, rfl, .escape he hcontent, hitems⟩
  | @openClass inClass body _ ih =>
    obtain ⟨content, items, rfl, hcontent, hitems⟩ := ih
    cases inClass with
    | false => exact .charClass hcontent hitems
    | true => exact ⟨'[' :: content, items, rfl, .char (by decide) (by decide) hcontent, hitems⟩
  | @closeClass inClass body _ ih =>
    cases inClass with
    | false => exact .char (by decide) (by decide) ih
    | true => exact ⟨[], body, rfl, .nil, ih⟩
  | @char inClass c body hend hc hslash _ ih =>
    simp only [List.mem_cons, List.not_mem_nil, or_false, not_or] at hc
    cases inClass with
    | false => exact .char (by simpa [hc] using hslash) hend ih
    | true =>
      obtain ⟨content, items, rfl, hcontent, hitems⟩ := ih
      exact ⟨c :: content, items, rfl, .char (by simp [hc]) hend hcontent, hitems⟩

/-- A body that is read outside of a class is a sequence of items. -/
theorem regexBody_iff : RegexBody false body ↔ RegexItems body :=
  ⟨RegexBody.itemsFrom, RegexItems.regexBody⟩

end Bodies

/-! ## Where it ends -/

section Ends

variable {inClass : Bool} {text body body' tail tail' : Text}

/-- What the scanner finds is the body, the slash and the flags behind it. -/
theorem RegexBody.take_append (h : RegexBody inClass body) (tail : Text) :
    (body ++ '/' :: tail).take (Lexeme.regexBody inClass (body ++ '/' :: tail)) =
      body ++ '/' :: tail.takeWhile continuesName := by
  rw [h.regexBody_append, Nat.add_assoc, List.take_length_add_append, Nat.add_comm 1,
    List.take_succ_cons, take_runLength]

/-- The scanner stops behind the first slash that closes the expression: it reads only flags
    from there on, so that no body goes on to a second slash. -/
theorem RegexBody.eq_nil_of_append {more : Text} (h : RegexBody inClass body)
    (h' : RegexBody inClass (body ++ more)) (htail : '/' :: tail = more ++ '/' :: tail') :
    more = [] := by
  cases more with
  | nil => rfl
  | cons d more =>
    have hslash : continuesName '/' = false := by decide +kernel
    obtain ⟨rfl, rfl⟩ := List.cons.inj htail
    have hflags := runLength_append_le hslash more tail'
    have hlength := h.regexBody_append (more ++ '/' :: tail')
    have hlength' := h'.regexBody_append tail'
    rw [List.append_assoc, List.cons_append, hlength, List.length_append, List.length_cons]
      at hlength'
    omega

/-- A text has one body at most. -/
theorem RegexBody.unique (h : RegexBody inClass body) (h' : RegexBody inClass body')
    (htext : body ++ '/' :: tail = body' ++ '/' :: tail') : body' = body := by
  obtain ⟨more, rfl, htail⟩ | ⟨more, rfl, htail⟩ := List.append_eq_append_iff.1 htext
  · rw [h.eq_nil_of_append h' htail, List.append_nil]
  · rw [h'.eq_nil_of_append h htail, List.append_nil]

/-- Without a slash that closes the expression, it goes on to the end of the line. -/
theorem exists_regexBody_or_lineEnd (inClass : Bool) (text : Text) :
    (∃ body tail, text = body ++ '/' :: tail ∧ RegexBody inClass body) ∨
      ∀ c ∈ (text.drop (Lexeme.regexBody inClass text)).head?, isLineEnd c = true := by
  -- An item in front of a body belongs to it.
  have hfront {before after : Bool} {rest : Text} {unclosed : Prop} (item : Text)
      (hitem : ∀ body, RegexBody after body → RegexBody before (item ++ body))
      (ih : (∃ body tail, rest = body ++ '/' :: tail ∧ RegexBody after body) ∨ unclosed) :
      (∃ body tail, item ++ rest = body ++ '/' :: tail ∧ RegexBody before body) ∨ unclosed := by
    refine ih.imp_left ?_
    rintro ⟨body, tail, rfl, hbody⟩
    exact ⟨item ++ body, tail, (List.append_assoc _ _ _).symm, hitem body hbody⟩
  fun_induction regexBody inClass text with
  | case1 => exact .inr (by simp)
  | case2 => exact .inr (by simp)
  | case3 inClass e rest he => exact .inr (by simp [he])
  | case4 inClass e rest he ih =>
    exact hfront ['\\', e] (fun body hbody => .escape (by simpa using he) hbody) ih
  | case5 inClass c rest _ _ hend => exact .inr (by simp [hend])
  | case6 inClass c rest _ _ _ hclose =>
    simp only [Bool.and_eq_true, decide_eq_true_eq, Bool.not_eq_true'] at hclose
    obtain ⟨rfl, rfl⟩ := hclose
    exact .inl ⟨[], rest, rfl, .nil⟩
  | case7 inClass rest _ _ _ _ ih => exact hfront ['['] (fun body hbody => .openClass hbody) ih
  | case8 inClass rest _ _ _ _ _ ih => exact hfront [']'] (fun body hbody => .closeClass hbody) ih
  | case9 inClass c rest hlone hescape hend hclose hopen hshut ih =>
    have hplain : c ∉ ['\\', '[', ']'] := by simp [ne_of_tail hlone hescape, hopen, hshut]
    exact hfront [c] (fun body hbody =>
      .char (by simpa using hend) hplain (by simpa using hclose) hbody) ih

end Ends

/-- Whether a regular expression may begin at the start of the text: at a slash that begins no
    comment. -/
def BeginsRegex (text : Text) : Prop :=
  ∃ rest, text = '/' :: rest ∧ rest.head? ≠ some '/' ∧ rest.head? ≠ some '*'

/-- `ClosedRegex text body tail`: the text begins with a body between two slashes, and `tail` is
    what stands behind them. -/
structure ClosedRegex (text body tail : Text) : Prop where
  eq : text = '/' :: (body ++ '/' :: tail)
  ne_nil : body ≠ []
  items : RegexItems body

/-- A regular expression is never empty and stays on its line.  If a slash closes it, this is the
    only slash that can, and the expression ends with the flags behind it; otherwise it ends with
    the line.  No other text begins with a regular expression. -/
theorem regex_ends (text : Text) :
    (BeginsRegex text →
      (0 < regex text ∧ regex text ≤ text.length) ∧
        (∀ c ∈ text.take (regex text), isLineEnd c = false) ∧
        (∀ body tail, ClosedRegex text body tail →
          (∀ body' tail', ClosedRegex text body' tail' → body' = body) ∧
            text.take (regex text) = '/' :: (body ++ '/' :: tail.takeWhile continuesName)) ∧
        ((¬ ∃ body tail, ClosedRegex text body tail) →
          ∀ c ∈ (text.drop (regex text)).head?, isLineEnd c = true)) ∧
      (¬ BeginsRegex text → regex text = 0) := by
  refine ⟨?_, ?_⟩
  · rintro ⟨rest, rfl, hslash, hstar⟩
    have hregex := mt regex_slash_eq_zero_iff.1 (not_or.2 ⟨hslash, hstar⟩)
    refine ⟨⟨Nat.pos_of_ne_zero hregex, regex_le _⟩, fun c hc => ?_,
      fun body tail hclosed => ⟨?_, ?_⟩, fun hopen => ?_⟩
    · simpa using madeOf_regex ('/' :: rest) c hc
    · intro body' tail' hclosed'
      have htext : body ++ '/' :: tail = body' ++ '/' :: tail' :=
        (List.cons.inj (hclosed.eq.symm.trans hclosed'.eq)).2
      exact hclosed.items.regexBody.unique hclosed'.items.regexBody htext
    · obtain rfl := (List.cons.inj hclosed.eq).2
      rw [regex_slash hregex, List.take_succ_cons, hclosed.items.regexBody.take_append]
    · rw [regex_slash hregex, List.drop_succ_cons]
      refine (exists_regexBody_or_lineEnd false rest).resolve_left ?_
      rintro ⟨body, tail, rfl, hbody⟩
      refine hopen ⟨body, tail, rfl, ?_, regexBody_iff.1 hbody⟩
      rintro rfl
      exact hslash rfl
  · intro hbegins
    refine Decidable.byContradiction fun hregex => ?_
    obtain ⟨rest, rfl⟩ := List.head?_eq_some_iff.1 (head?_of_regex hregex)
    obtain ⟨hslash, hstar⟩ := not_or.1 (mt regex_slash_eq_zero_iff.2 hregex)
    exact hbegins ⟨rest, rfl, hslash, hstar⟩

-- A slash in a class closes nothing.
example : regex ['/', '[', '/', ']', '/', 'g', ';'] = 6 := by decide +kernel

-- The bracket is escaped, and the class goes on to the end of the line.
example : regex ['/', '[', '\\', ']', '/', '\n', '/'] = 5 := by decide +kernel

end SyntaxColor.Lexeme
