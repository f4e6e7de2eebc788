/-
  Texts decorated with escape sequences.

  `withoutSequences`, `sequences`: a text as somebody sees it who only knows that an escape sequence
  goes from an escape character through the next letter.
  `Decorates`: one text is another one with a style turned on and off again along its lines.
  `Decorates.withoutSequences_eq`, `Decorates.lines`: what is seen of such a text is the other one,
  line by line, and on each line what turns a style on and what turns it off take turns.
-/
import SyntaxColor.Palette.Terminal
import SyntaxColor.Proofs.Line
import SyntaxColor.Proofs.Palette

namespace SyntaxColor

open Text

namespace Terminal

/-! ## Escape sequences -/

/-- The text without its escape sequences, each of which goes from an escape character through the
    next letter; `inside` tells whether the text begins inside of one. -/
def withoutSequences (inside : Bool) : Text → Text
  | [] => []
  | c :: rest =>
    if inside then withoutSequences (!c.isAlpha) rest
    else if c = '\x1b' then withoutSequences true rest
    else c :: withoutSequences false rest

/-- The escape sequences of a text; `begun` is what was read of one that goes on in the text. -/
def sequences (begun : Text) : Text → List Text
  | [] => if begun = [] then [] else [begun]
  | c :: rest =>
    if begun = [] ∧ c ≠ '\x1b' then sequences [] rest
    else if c.isAlpha then (begun ++ [c]) :: sequences [] rest
    else sequences (begun ++ [c]) rest

/-- The sequences that turn on the style of a category. -/
def openings : List Text :=
  Category.styled.filterMap fun category => (parameters? category).map select

/-- Whether sequences that turn a style on and sequences that turn it off take turns, the last one
    turning it off; `shown` tells whether a style is on before them. -/
def alternates (shown : Bool) : List Text → Bool
  | [] => !shown
  | sequence :: rest =>
    (if shown then sequence = reset else sequence ∈ openings) && alternates (!shown) rest

/-- Whether a text is one escape sequence that stays on its line: an escape character, then no
    letters up to the last character, which is one. -/
def isSequence : Text → Bool
  | [] => false
  | c :: rest =>
    c = '\x1b' && rest.getLast?.any Char.isAlpha &&
      rest.dropLast.all fun d => !d.isAlpha && !isLineEnd d

theorem isSequence_of_mem_openings {sequence : Text} (h : sequence ∈ openings) :
    isSequence sequence = true := by
  have hall : openings.all isSequence = true := by decide
  exact List.all_eq_true.1 hall sequence h

theorem isSequence_reset : isSequence reset = true := by decide

section Sequence

variable {sequence : Text}

theorem exists_of_isSequence (h : isSequence sequence = true) : ∃ body final,
    sequence = '\x1b' :: (body ++ [final]) ∧ final.isAlpha = true ∧
      ∀ c ∈ body, c.isAlpha = false ∧ isLineEnd c = false := by
  cases sequence with
  | nil => cases h
  | cons c rest =>
    simp only [isSequence, Bool.and_eq_true, decide_eq_true_eq, List.all_eq_true,
      Bool.not_eq_true'] at h
    obtain ⟨⟨rfl, hfinal⟩, hbody⟩ := h
    cases hlast : rest.getLast? with
    | none => simp [hlast] at hfinal
    | some final =>
      obtain ⟨body, rfl⟩ := List.getLast?_eq_some_iff.1 hlast
      refine ⟨body, final, rfl, by simpa using hfinal, ?_⟩
      simpa using hbody

theorem withoutSequences_inside {body : Text} {final : Char}
    (hbody : ∀ c ∈ body, c.isAlpha = false ∧ isLineEnd c = false)
    (hfinal : final.isAlpha = true) (rest : Text) :
    withoutSequences true (body ++ ([final] ++ rest)) = withoutSequences false rest := by
  induction body with
  | nil => simp [withoutSequences, hfinal]
  | cons c body ih =>
    obtain ⟨hc, hmore⟩ := List.forall_mem_cons.1 hbody
    simpa [withoutSequences, hc.1] using ih hmore

theorem withoutSequences_sequence (h : isSequence sequence = true) (rest : Text) :
    withoutSequences false (sequence ++ rest) = withoutSequences false rest := by
  obtain ⟨body, final, rfl, hfinal, hbody⟩ := exists_of_isSequence h
  rw [List.cons_append, List.append_assoc, withoutSequences]
  exact withoutSequences_inside hbody hfinal rest

theorem sequences_inside {begun body : Text} {final : Char} (hbegun : begun ≠ [])
    (hbody : ∀ c ∈ body, c.isAlpha = false ∧ isLineEnd c = false)
    (hfinal : final.isAlpha = true) (rest : Text) :
    sequences begun (body ++ ([final] ++ rest)) =
      (begun ++ (body ++ [final])) :: sequences [] rest := by
  induction body generalizing begun with
  | nil => simp [sequences, hbegun, hfinal]
  | cons c body ih =>
    obtain ⟨hc, hmore⟩ := List.forall_mem_cons.1 hbody
    have hlonger : begun ++ [c] ≠ [] := by simp
    simpa [sequences, hbegun, hc.1] using ih hlonger hmore

theorem sequences_sequence (h : isSequence sequence = true) (rest : Text) :
    sequences [] (sequence ++ rest) = sequence :: sequences [] rest := by
  obtain ⟨body, final, rfl, hfinal, hbody⟩ := exists_of_isSequence h
  have hescape : ('\x1b' : Char).isAlpha = false := by decide
  have hbegun : ['\x1b'] ≠ [] := by simp
  have hinside := sequences_inside hbegun hbody hfinal rest
  rw [List.cons_append, List.append_assoc, sequences]
  simpa [hescape] using hinside

theorem isLineEnd_of_mem_sequence (h : isSequence sequence = true) :
    ∀ c ∈ sequence, isLineEnd c = false := by
  obtain ⟨body, final, rfl, hfinal, hbody⟩ := exists_of_isSequence h
  have hlast : isLineEnd final = false := isLineEnd_of_class (by decide) hfinal
  intro c hc
  obtain rfl | hc | rfl : c = '\x1b' ∨ c ∈ body ∨ c = final := by simpa using hc
  · decide
  · exact (hbody c hc).2
  · exact hlast

/-- A sequence is put before the first line. -/
theorem lines_sequence (h : isSequence sequence = true) (rest : Text) :
    (sequence ++ rest).lines =
      rest.lines.modifyHead fun line => ⟨sequence ++ line.content, line.lineBreak⟩ := by
  have hplain := isLineEnd_of_mem_sequence h
  clear h
  obtain ⟨line, more, hlines⟩ := List.exists_cons_of_ne_nil (lines_ne_nil rest)
  induction sequence with
  | nil => simp [hlines]
  | cons c sequence ih =>
    obtain ⟨hc, hmore⟩ := List.forall_mem_cons.1 hplain
    rw [List.cons_append, lines_cons hc, ih hmore, hlines]
    rfl

end Sequence

/-- No sequence begins in a line break. -/
theorem withoutSequences_lineBreak {lineBreak text : Text} (h : IsLineBreak lineBreak text)
    (rest : Text) :
    withoutSequences false (lineBreak ++ rest) = lineBreak ++ withoutSequences false rest := by
  cases h with
  | pair => simp [withoutSequences]
  | @single c _ hc =>
    have hescape : c ≠ '\x1b' := by
      rintro rfl
      cases hc
    simp [withoutSequences, hescape]

/-! ## Decorated texts -/

/-- `Decorates shown out text`: `out` is `text`, which has no escape character, with a style turned
    on and off again, so that none is on at a line break or at the end; `shown` tells whether one is
    on before `out`. -/
inductive Decorates : Bool → Text → Text → Prop
  | nil : Decorates false [] []
  | char {shown : Bool} {c : Char} {out text : Text} (hescape : c ≠ '\x1b')
      (hline : isLineEnd c = false) (h : Decorates shown out text) :
      Decorates shown (c :: out) (c :: text)
  | lineBreak {lineBreak out text : Text} (hbreak : IsLineBreak lineBreak text)
      (h : Decorates false out text) : Decorates false (lineBreak ++ out) (lineBreak ++ text)
  | select {sequence out text : Text} (hopening : sequence ∈ openings)
      (h : Decorates true out text) : Decorates false (sequence ++ out) text
  | reset {out text : Text} (h : Decorates false out text) : Decorates true (reset ++ out) text

namespace Decorates

variable {shown : Bool} {out out' text text' : Text}

theorem append (h : Decorates shown out text) (h' : Decorates false out' text')
    (hseam : ¬ CutsLineBreak text text') : Decorates shown (out ++ out') (text ++ text') := by
  induction h with
  | nil => exact h'
  | char hescape hline _ ih => exact .char hescape hline (ih (mt (CutsLineBreak.cons _) hseam))
  | @lineBreak lineBreak _ _ hbreak _ ih =>
    rw [List.append_assoc, List.append_assoc]
    exact .lineBreak (hbreak.append hseam) (ih (mt (CutsLineBreak.append_left lineBreak) hseam))
  | select hopening _ ih =>
    rw [List.append_assoc]
    exact .select hopening (ih hseam)
  | reset _ ih =>
    rw [List.append_assoc]
    exact .reset (ih hseam)

theorem composes : Composes (Decorates false) := ⟨.nil, append⟩

/-- Without its escape sequences the decorated text is the text. -/
theorem withoutSequences_eq (h : Decorates shown out text) : withoutSequences false out = text := by
  induction h with
  | nil => rfl
  | char hescape _ _ ih => simp [withoutSequences, hescape, ih]
  | lineBreak hbreak _ ih => rw [withoutSequences_lineBreak hbreak, ih]
  | select hopening _ ih =>
    rw [withoutSequences_sequence (isSequence_of_mem_openings hopening), ih]
  | reset _ ih => rw [withoutSequences_sequence isSequence_reset, ih]

/-- What is decorated begins with a line feed only if the text does: nothing comes between a
    carriage return and its line feed. -/
theorem head?_eq (h : Decorates false out text) (hhead : out.head? = some '\n') :
    text.head? = some '\n' := by
  cases h with
  | nil => cases hhead
  | char _ hline _ =>
    obtain rfl := Option.some.inj hhead
    cases hline
  | lineBreak hbreak _ =>
    cases hbreak with
    | pair => cases hhead
    | single => exact hhead
  | select hopening _ =>
    obtain ⟨body, final, rfl, -⟩ := exists_of_isSequence (isSequence_of_mem_openings hopening)
    cases hhead

end Decorates

/-- A line as it is decorated, and the line; `shown` tells whether a style is on before it. -/
structure DecoratesLine (shown : Bool) (out line : Line) : Prop where
  lineBreak : out.lineBreak = line.lineBreak
  content : withoutSequences false out.content = line.content
  alternates : alternates shown (sequences [] out.content) = true

/-- The lines of a text as they are decorated, and its lines; `shown` tells whether a style is on
    before the first one.  None is before the others. -/
inductive DecoratesLines : Bool → List Line → List Line → Prop
  | last {shown : Bool} {out line : Line} (h : DecoratesLine shown out line) :
      DecoratesLines shown [out] [line]
  | cons {shown : Bool} {out line : Line} {outs lines : List Line}
      (h : DecoratesLine shown out line) (hmore : DecoratesLines false outs lines) :
      DecoratesLines shown (out :: outs) (line :: lines)

namespace DecoratesLine

variable {shown : Bool} {out line : Line}

theorem empty (lineBreak : Text) : DecoratesLine false ⟨[], lineBreak⟩ ⟨[], lineBreak⟩ :=
  ⟨rfl, rfl, rfl⟩

theorem char (h : DecoratesLine shown out line) {c : Char} (hc : c ≠ '\x1b') :
    DecoratesLine shown (out.cons c) (line.cons c) where
  lineBreak := h.lineBreak
  content := by simp [Line.cons, withoutSequences, hc, h.content]
  alternates := by simpa [Line.cons, sequences, hc] using h.alternates

theorem select (h : DecoratesLine true out line) {sequence : Text}
    (hopening : sequence ∈ openings) :
    DecoratesLine false ⟨sequence ++ out.content, out.lineBreak⟩ line where
  lineBreak := h.lineBreak
  content := by
    rw [withoutSequences_sequence (isSequence_of_mem_openings hopening), h.content]
  alternates := by
    rw [sequences_sequence (isSequence_of_mem_openings hopening)]
    simpa [Terminal.alternates, hopening] using h.alternates

theorem reset (h : DecoratesLine false out line) :
    DecoratesLine true ⟨Terminal.reset ++ out.content, out.lineBreak⟩ line where
  lineBreak := h.lineBreak
  content := by rw [withoutSequences_sequence isSequence_reset, h.content]
  alternates := by
    rw [sequences_sequence isSequence_reset]
    simpa [Terminal.alternates] using h.alternates

end DecoratesLine

namespace DecoratesLines

variable {shown shown' : Bool} {outs lines : List Line}

/-- Whatever is put before a decorated text is put before its first line. -/
theorem modifyHead (h : DecoratesLines shown outs lines) {f g : Line → Line}
    (hfirst : ∀ out line, DecoratesLine shown out line → DecoratesLine shown' (f out) (g line)) :
    DecoratesLines shown' (outs.modifyHead f) (lines.modifyHead g) := by
  cases h with
  | last h => exact .last (hfirst _ _ h)
  | cons h hmore => exact .cons (hfirst _ _ h) hmore

theorem map_lineBreak (h : DecoratesLines shown outs lines) :
    outs.map Line.lineBreak = lines.map Line.lineBreak := by
  induction h with
  | last h => simp [h.lineBreak]
  | cons h _ ih => simp [h.lineBreak, ih]

theorem map_content (h : DecoratesLines shown outs lines) :
    outs.map (fun out => withoutSequences false out.content) = lines.map Line.content := by
  induction h with
  | last h => simp [h.content]
  | cons h _ ih => simp [h.content, ih]

theorem alternates (h : DecoratesLines false outs lines) :
    ∀ out ∈ outs, alternates false (sequences [] out.content) = true := by
  generalize hshown : false = shown at h
  induction h with
  | last h =>
    subst hshown
    simpa using h.alternates
  | cons h _ ih =>
    subst hshown
    exact List.forall_mem_cons.2 ⟨h.alternates, ih rfl⟩

end DecoratesLines

/-- A decorated text is decorated line by line. -/
theorem Decorates.lines {shown : Bool} {out text : Text} (h : Decorates shown out text) :
    DecoratesLines shown out.lines text.lines := by
  induction h with
  | nil => exact .last (.empty [])
  | char hescape hline _ ih =>
    rw [lines_cons hline, lines_cons hline]
    exact ih.modifyHead fun _ _ h => h.char hescape
  | lineBreak hbreak h ih =>
    rw [lines_lineBreak hbreak, lines_lineBreak (hbreak.of_head? h.head?_eq)]
    exact .cons (.empty _) ih
  | select hopening _ ih =>
    rw [lines_sequence (isSequence_of_mem_openings hopening)]
    simpa using ih.modifyHead (g := id) fun _ _ h => h.select hopening
  | reset _ ih =>
    rw [lines_sequence isSequence_reset]
    simpa using ih.modifyHead (g := id) fun _ _ h => h.reset

end Terminal

end SyntaxColor
