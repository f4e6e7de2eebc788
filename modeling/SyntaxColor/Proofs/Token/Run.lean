/-
  Runs of the lexer.  `Reads` takes one step after another, from any context; `Reached` says to
  which contexts the lexer comes that is started on a text, and what it has read by then.

  `reached_trace`, `reached_of_trace_eq`: the trace of a text is such a run to the end of the
  text, and every beginning of the trace is a run, too.
  `tokens_partition`: every step reads a slice of at least one character inside the text, the run
  comes to the end, and the tokens one after another are the text.
-/
import SyntaxColor.Proofs.Token.Step

namespace SyntaxColor

/-- A token that was read, and the context after it. -/
abbrev Entry := Token × Context

/-- What a step at the start of `text` adds to the trace. -/
def Step.entry (step : Step) (text : Text) : Entry :=
  (⟨step.kind, text.take step.length⟩, step.next)

/-- The context after the last of these tokens, `s` if there are none. -/
def contextAfter (s : Context) : List Entry → Context
  | [] => s
  | entry :: rest => contextAfter entry.2 rest

/-- `Reads jsx s text tokens s' rest`: from the context `s` before `text`, steps read `tokens` one
    after another, and leave `rest` in the context `s'`. -/
inductive Reads (jsx : Bool) : Context → Text → List Token → Context → Text → Prop
  | done (s : Context) (text : Text) : Reads jsx s text [] s text
  | step {s next s' : Context} {lexeme text rest : Text} {kind : Kind} {tokens : List Token}
      (hne : lexeme ≠ []) (hstep : s.step jsx (lexeme ++ text) = ⟨kind, lexeme.length, next⟩)
      (h : Reads jsx next text tokens s' rest) :
      Reads jsx s (lexeme ++ text) (⟨kind, lexeme⟩ :: tokens) s' rest

/-- `Reached jsx text seen s rest`: started on `text`, the lexer has read the tokens `seen`, and is
    in the context `s` before `rest`. -/
inductive Reached (jsx : Bool) (text : Text) : List Entry → Context → Text → Prop
  | start : Reached jsx text [] {} text
  | hashbang (h : Lexeme.hashbang text ≠ 0) :
      Reached jsx text [(⟨.hashbang, text.take (Lexeme.hashbang text)⟩, {})] {}
        (text.drop (Lexeme.hashbang text))
  | step {seen : List Entry} {s : Context} {rest : Text} (h : Reached jsx text seen s rest)
      (hrest : rest ≠ []) (hstart : seen = [] → Lexeme.hashbang text = 0) :
      Reached jsx text (seen ++ [(s.step jsx rest).entry rest]) (s.step jsx rest).next
        (rest.drop (s.step jsx rest).length)

/-! ## Steps -/

theorem length_bounds_step (jsx : Bool) (s : Context) {text : Text} (htext : text ≠ []) :
    0 < (s.step jsx text).length ∧ (s.step jsx text).length ≤ text.length :=
  (takes_step jsx s htext).length_bounds

theorem length_drop_step_lt (jsx : Bool) (s : Context) {text : Text} (htext : text ≠ []) :
    (text.drop (s.step jsx text).length).length < text.length := by
  have := length_bounds_step jsx s htext
  rw [List.length_drop]
  omega

theorem entry_text_ne_nil (jsx : Bool) (s : Context) {text : Text} (htext : text ≠ []) :
    ((s.step jsx text).entry text).1.text ≠ [] := by
  have := (length_bounds_step jsx s htext).1
  simp only [Step.entry, ne_eq, List.take_eq_nil_iff, not_or]
  exact ⟨Nat.ne_of_gt this, htext⟩

theorem traceFrom_cons (jsx : Bool) (s : Context) {text : Text} (htext : text ≠ []) :
    Text.traceFrom jsx s 0 text = (s.step jsx text).entry text ::
      Text.traceFrom jsx (s.step jsx text).next 0 (text.drop (s.step jsx text).length) := by
  obtain ⟨c, rest, rfl⟩ := List.exists_cons_of_ne_nil htext
  have hpos := (length_bounds_step jsx s htext).1
  have hdrop : rest.drop ((s.step jsx (c :: rest)).length - 1) =
      (c :: rest).drop (s.step jsx (c :: rest)).length := by
    rw [← List.drop_succ_cons (a := c), Nat.sub_add_cancel hpos]
  rw [Text.traceFrom, Text.traceFrom_eq_drop, hdrop]
  rfl

/-! ## From any context -/

theorem Reads.trans {jsx : Bool} {s s' s'' : Context} {text text' rest : Text}
    {tokens more : List Token} (h : Reads jsx s text tokens s' text')
    (h' : Reads jsx s' text' more s'' rest) : Reads jsx s text (tokens ++ more) s'' rest := by
  induction h with
  | done => exact h'
  | step hne hstep _ ih => exact .step hne hstep (ih h')

theorem Reads.char {jsx : Bool} {s next s' : Context} {c : Char} {text rest : Text} {kind : Kind}
    {tokens : List Token} (hstep : s.step jsx (c :: text) = ⟨kind, 1, next⟩)
    (h : Reads jsx next text tokens s' rest) :
    Reads jsx s (c :: text) (⟨kind, [c]⟩ :: tokens) s' rest :=
  .step (List.cons_ne_nil c []) hstep h

theorem Reads.single {jsx : Bool} {s next : Context} {lexeme rest : Text} {kind : Kind}
    (hne : lexeme ≠ []) (hstep : s.step jsx (lexeme ++ rest) = ⟨kind, lexeme.length, next⟩) :
    Reads jsx s (lexeme ++ rest) [⟨kind, lexeme⟩] next rest :=
  .step hne hstep (.done next rest)

/-! ## From the start of a text -/

section Reached

variable {jsx : Bool} {text rest : Text} {seen more : List Entry} {s s' : Context}

/-- A run goes on with every token that is read from where it came to. -/
theorem Reached.append {rest' : Text} {tokens : List Token} (h : Reached jsx text seen s rest)
    (hstart : seen = [] → Lexeme.hashbang text = 0) (h' : Reads jsx s rest tokens s' rest') :
    ∃ more, Reached jsx text (seen ++ more) s' rest' ∧ more.map Prod.fst = tokens := by
  induction h' generalizing seen with
  | done => exact ⟨[], by simpa using h, rfl⟩
  | step hne hstep _ ih =>
    have hnext := h.step (by simp [hne]) hstart
    rw [hstep, List.drop_left] at hnext
    obtain ⟨more, hmore, hmap⟩ := ih hnext (by simp)
    exact ⟨_ :: more, by simpa using hmore, by simp [Step.entry, hmap]⟩

theorem Reached.trace_eq (h : Reached jsx text seen s rest)
    (hstart : seen = [] → Lexeme.hashbang text = 0) :
    text.trace jsx = seen ++ Text.traceFrom jsx s 0 rest := by
  induction h with
  | start => simp [Text.trace, hstart rfl]
  | hashbang h =>
    unfold Text.trace
    split
    · next hzero => exact absurd hzero h
    · rw [Text.traceFrom_eq_drop]
      rfl
  | step _ hrest hfirst ih => rw [ih hfirst, traceFrom_cons _ _ hrest, List.append_cons]

theorem contextAfter_append (s : Context) (seen : List Entry) (entry : Entry) :
    contextAfter s (seen ++ [entry]) = entry.2 := by
  induction seen generalizing s with
  | nil => rfl
  | cons _ _ ih => exact ih _

theorem Reached.context_eq (h : Reached jsx text seen s rest) : s = contextAfter {} seen := by
  cases h with
  | start => rfl
  | hashbang => rfl
  | step => rw [contextAfter_append]; rfl

theorem Reached.text_eq (h : Reached jsx text seen s rest) :
    text = seen.flatMap (·.1.text) ++ rest := by
  induction h with
  | start => rfl
  | hashbang => simp
  | step _ _ _ ih => simp [Step.entry, ← ih]

/-- What holds of the token of every step holds of every token that was read. -/
theorem Reached.forall_token {P : Token → Prop} (h : Reached jsx text seen s rest)
    (hhashbang : Lexeme.hashbang text ≠ 0 →
      P ⟨.hashbang, text.take (Lexeme.hashbang text)⟩)
    (hstep : ∀ (s : Context) (text : Text), text ≠ [] → P ((s.step jsx text).entry text).1) :
    ∀ entry ∈ seen, P entry.1 := by
  induction h with
  | start => simp
  | hashbang h => simpa using hhashbang h
  | step _ hrest _ ih =>
    intro entry hentry
    obtain hentry | hentry := List.mem_append.1 hentry
    · exact ih entry hentry
    · rw [List.mem_singleton.1 hentry]
      exact hstep _ _ hrest

/-- Wherever the lexer is, it comes to the end of the text. -/
theorem Reached.to_end (h : Reached jsx text seen s rest)
    (hstart : seen = [] → Lexeme.hashbang text = 0) :
    ∃ s', Reached jsx text (seen ++ Text.traceFrom jsx s 0 rest) s' [] := by
  induction hn : rest.length using Nat.strongRecOn generalizing seen s rest with
  | ind n ih =>
    cases hrest : rest with
    | nil => exact ⟨s, by simpa [Text.traceFrom, hrest] using h⟩
    | cons c more =>
      rw [← hrest]
      have hne : rest ≠ [] := by simp [hrest]
      have hlt := length_drop_step_lt jsx s hne
      obtain ⟨s', hend⟩ := ih _ (hn ▸ hlt) (h.step hne hstart) (by simp) rfl
      refine ⟨s', ?_⟩
      rwa [traceFrom_cons _ _ hne, List.append_cons]

theorem Reached.of_append (h : Reached jsx text (seen ++ more) s rest) :
    ∃ s' rest', Reached jsx text seen s' rest' := by
  generalize hall : seen ++ more = all at h
  induction h generalizing more with
  | start =>
    obtain ⟨rfl, -⟩ := List.append_eq_nil_iff.1 hall
    exact ⟨_, _, .start⟩
  | hashbang hne =>
    obtain ⟨rfl, -⟩ | ⟨rfl, -⟩ := List.append_eq_singleton_iff.1 hall
    · exact ⟨_, _, .start⟩
    · exact ⟨_, _, .hashbang hne⟩
  | step h hrest hstart ih =>
    obtain rfl | ⟨more', entry, rfl⟩ := List.eq_nil_or_concat more
    · rw [List.append_nil] at hall
      exact hall ▸ ⟨_, _, h.step hrest hstart⟩
    · rw [List.concat_eq_append, ← List.append_assoc] at hall
      exact ih (List.append_inj_left' hall rfl)

/-- Each token is what a step reads in the context before it, or names an interpreter. -/
theorem Reached.last_cases {entry : Entry} (h : Reached jsx text (seen ++ [entry]) s rest) :
    (seen = [] ∧ ∃ lexeme, entry = (⟨.hashbang, lexeme⟩, {})) ∨ ∃ rest' step,
      Reached jsx text seen (contextAfter {} seen) rest' ∧
        Takes jsx (contextAfter {} seen) rest' step ∧ entry = step.entry rest' ∧
          rest = rest'.drop step.length := by
  generalize hall : seen ++ [entry] = all at h
  cases h with
  | start => simp at hall
  | hashbang =>
    obtain ⟨rfl, hentry⟩ | ⟨-, hnil⟩ := List.append_eq_singleton_iff.1 hall
    · exact .inl ⟨rfl, _, (List.cons.inj hentry).1⟩
    · cases hnil
  | @step _ s' rest' h hrest =>
    obtain ⟨rfl, hentry⟩ := List.append_inj' hall rfl
    have hcontext := h.context_eq
    subst hcontext
    exact .inr ⟨_, _, h, takes_step jsx _ hrest, (List.cons.inj hentry).1, rfl⟩

/-- Each token is what a step reads, unless it names an interpreter. -/
theorem Reached.exists_takes_of_kind {entry : Entry}
    (h : Reached jsx text (seen ++ [entry]) s rest)
    (hkind : seen = [] → entry.1.kind ≠ .hashbang) : ∃ s' rest' step,
      Reached jsx text seen s' rest' ∧ Takes jsx s' rest' step ∧ entry = step.entry rest' ∧
        rest = rest'.drop step.length := by
  obtain ⟨rfl, lexeme, rfl⟩ | hstep := h.last_cases
  · exact absurd rfl (hkind rfl)
  · exact ⟨_, hstep⟩

/-- Each token but the first is what a step reads. -/
theorem Reached.exists_takes {entry : Entry} (h : Reached jsx text (seen ++ [entry]) s rest)
    (hseen : seen ≠ []) : ∃ s' rest' step, Reached jsx text seen s' rest' ∧
      Takes jsx s' rest' step ∧ entry = step.entry rest' := by
  obtain ⟨s', rest', step, hreached, htakes, hentry, -⟩ :=
    h.exists_takes_of_kind fun hnil => absurd hnil hseen
  exact ⟨s', rest', step, hreached, htakes, hentry⟩

end Reached

/-- The trace is a run that comes to the end of the text. -/
theorem reached_trace (jsx : Bool) (text : Text) : ∃ s, Reached jsx text (text.trace jsx) s [] := by
  by_cases h : Lexeme.hashbang text = 0
  · obtain ⟨s, hs⟩ := (Reached.start : Reached jsx text _ _ _).to_end (fun _ => h)
    rw [← Reached.trace_eq .start (fun _ => h)] at hs
    exact ⟨s, hs⟩
  · obtain ⟨s, hs⟩ := (Reached.hashbang h : Reached jsx text _ _ _).to_end (by simp)
    rw [← Reached.trace_eq (.hashbang h) (by simp)] at hs
    exact ⟨s, hs⟩

/-- Every beginning of the trace is a run, which leaves the lexer in the context that the trace
    shows. -/
theorem reached_of_trace_eq {jsx : Bool} {text : Text} {seen later : List Entry}
    (h : text.trace jsx = seen ++ later) :
    ∃ rest, Reached jsx text seen (contextAfter {} seen) rest := by
  obtain ⟨s, hs⟩ := reached_trace jsx text
  rw [h] at hs
  obtain ⟨s', rest, hseen⟩ := hs.of_append
  exact ⟨rest, hseen.context_eq ▸ hseen⟩

/-- Behind any beginning of the trace lies the text of the tokens that come after it. -/
theorem reached_before_later {jsx : Bool} {text : Text} {seen later : List Entry}
    (h : text.trace jsx = seen ++ later) :
    Reached jsx text seen (contextAfter {} seen) (later.flatMap (·.1.text)) := by
  obtain ⟨_, hend⟩ := reached_trace jsx text
  obtain ⟨rest, hseen⟩ := reached_of_trace_eq h
  have htext := hend.text_eq
  rw [h, List.append_nil, List.flatMap_append] at htext
  have hrest : seen.flatMap (·.1.text) ++ rest =
      seen.flatMap (·.1.text) ++ later.flatMap (·.1.text) := hseen.text_eq.symm.trans htext
  rwa [← List.append_cancel_left hrest]

/-- Behind any beginning of the trace the lexer goes on from the context and the text there. -/
theorem eq_traceFrom_of_trace_eq {jsx : Bool} {text : Text} {seen later : List Entry}
    (h : text.trace jsx = seen ++ later) (hstart : seen = [] → Lexeme.hashbang text = 0) :
    later = Text.traceFrom jsx (contextAfter {} seen) 0 (later.flatMap (·.1.text)) :=
  List.append_cancel_left (h.symm.trans ((reached_before_later h).trace_eq hstart))

/-- Each token of the trace is what a step reads at the start of its own text and the text of the
    tokens behind it, and the lexer goes on behind it, unless it names an interpreter. -/
theorem step_of_trace_eq {jsx : Bool} {text : Text} {seen later : List Entry} {entry : Entry}
    (h : text.trace jsx = seen ++ entry :: later) (hkind : entry.1.kind ≠ .hashbang) :
    ∃ c more, (entry :: later).flatMap (·.1.text) = c :: more ∧
      entry = ((contextAfter {} seen).step jsx (c :: more)).entry (c :: more) ∧
      later = Text.traceFrom jsx entry.2 0 (later.flatMap (·.1.text)) := by
  have hstart : seen = [] → Lexeme.hashbang text = 0 := by
    rintro rfl
    unfold Text.trace at h
    split at h
    · next hzero => exact hzero
    · obtain ⟨rfl, -⟩ := List.cons.inj h
      exact absurd rfl hkind
  have hread := eq_traceFrom_of_trace_eq h hstart
  cases htext : (entry :: later).flatMap (·.1.text) with
  | nil =>
    rw [htext] at hread
    cases hread
  | cons c more =>
    rw [htext, traceFrom_cons _ _ (List.cons_ne_nil c more)] at hread
    refine ⟨c, more, rfl, (List.cons.inj hread).1, ?_⟩
    rw [List.append_cons] at h
    have hlater := eq_traceFrom_of_trace_eq h (by simp)
    rwa [contextAfter_append] at hlater

/-- What is read from the start to the end are the tokens of the text. -/
theorem tokens_of_reads {jsx : Bool} {text : Text} {tokens : List Token} {s : Context}
    (hhashbang : Lexeme.hashbang text = 0) (h : Reads jsx {} text tokens s []) :
    text.tokens jsx = tokens ∧ contextAfter {} (text.trace jsx) = s := by
  obtain ⟨more, hmore, hmap⟩ := Reached.start.append (fun _ => hhashbang) h
  have htrace := hmore.trace_eq fun _ => hhashbang
  rw [Text.traceFrom, List.append_nil, List.nil_append] at htrace
  exact ⟨by rw [Text.tokens, htrace, hmap], by rw [htrace]; exact hmore.context_eq.symm⟩

theorem forall_tokens {jsx : Bool} {text : Text} {P : Token → Prop}
    (hhashbang : Lexeme.hashbang text ≠ 0 →
      P ⟨.hashbang, text.take (Lexeme.hashbang text)⟩)
    (hstep : ∀ (s : Context) (text : Text), text ≠ [] → P ((s.step jsx text).entry text).1) :
    ∀ token ∈ text.tokens jsx, P token := by
  intro token htoken
  obtain ⟨s, hs⟩ := reached_trace jsx text
  obtain ⟨entry, hentry, rfl⟩ := List.mem_map.1 htoken
  exact hs.forall_token hhashbang hstep entry hentry

/-! ## The tokens make up the text -/

theorem tokens_text_ne_nil (jsx : Bool) (text : Text) :
    ∀ token ∈ text.tokens jsx, token.text ≠ [] := by
  refine forall_tokens (fun h => ?_) (fun s _ => entry_text_ne_nil jsx s)
  have htext : text ≠ [] := fun hnil => h (by rw [hnil]; rfl)
  simp [h, htext]

theorem flatMap_text_tokens (jsx : Bool) (text : Text) :
    (text.tokens jsx).flatMap Token.text = text := by
  obtain ⟨s, hs⟩ := reached_trace jsx text
  rw [Text.tokens, List.flatMap_map]
  simpa using hs.text_eq.symm

theorem length_le_length_flatMap {α β : Type} {f : α → List β} {l : List α}
    (h : ∀ a ∈ l, f a ≠ []) : l.length ≤ (l.flatMap f).length := by
  induction l with
  | nil => exact Nat.zero_le _
  | cons a l ih =>
    have ha := List.length_pos_iff.2 (h a (List.mem_cons_self ..))
    have hl := ih fun b hb => h b (List.mem_cons_of_mem _ hb)
    simp only [List.flatMap_cons, List.length_append, List.length_cons]
    omega

/-- The lexer comes to the end of every text.  Each step, in whatever context, reads a slice of at
    least one character that lies inside the text; so no token is empty, there are at most as many
    tokens as characters, and the tokens one after another are the text. -/
theorem tokens_partition (jsx : Bool) (text : Text) :
    (∃ s, Reached jsx text (text.trace jsx) s []) ∧
      Lexeme.hashbang text ≤ text.length ∧
      (∀ (s : Context) (c : Char) (rest : Text), 0 < (s.step jsx (c :: rest)).length ∧
        (s.step jsx (c :: rest)).length ≤ (c :: rest).length) ∧
      [] ∉ (text.tokens jsx).map Token.text ∧
      (text.tokens jsx).length ≤ text.length ∧
      (text.tokens jsx).flatMap Token.text = text := by
  refine ⟨reached_trace jsx text, Lexeme.hashbang_le text, ?_, ?_, ?_, flatMap_text_tokens jsx text⟩
  · exact fun s c rest => length_bounds_step jsx s (List.cons_ne_nil c rest)
  · intro hnil
    obtain ⟨token, htoken, hempty⟩ := List.mem_map.1 hnil
    exact tokens_text_ne_nil jsx text token htoken hempty
  · calc (text.tokens jsx).length
        ≤ ((text.tokens jsx).flatMap Token.text).length :=
          length_le_length_flatMap (tokens_text_ne_nil jsx text)
      _ = text.length := by rw [flatMap_text_tokens]

end SyntaxColor
