/-
  Holes: script that stands in a template literal or in JSX.

  Whatever a text is made of, a hole is only left by the token that ends it, and every token that
  begins one enters it.  So the holes around a context can be counted among the tokens.

  `Keeps.holes_eq`: what a token does to the holes around it.
  `Reached.count_holes`: what a run does to their number.
  `holes_balanced`: the tokens that begin and end substitutions and expressions within JSX.
-/
import SyntaxColor.Proofs.Brackets.Region
import SyntaxColor.Proofs.Brackets.Simulation

namespace SyntaxColor

/-! ## Holes and the tokens around them -/

/-- The holes around a context, the innermost first. -/
def Context.holes (s : Context) : List Opener := s.regions.filterMap Region.hole?

theorem count_holes (s : Context) (hole : Opener) :
    s.holes.count hole = s.regions.countP (fun region => region.hole? = some hole) := by
  rw [Context.holes, List.count_filterMap]
  congr 1
  funext region
  exact Bool.eq_iff_iff.2 (by simp)

/-- The hole that a token begins. -/
def Token.beginsHole? (token : Token) : Option Opener :=
  if token.kind = .templateHead then some .templateHole
  else if token = ⟨.jsxMark, ['{']⟩ then some .jsxHole
  else none

/-- The hole that a token ends in the context `s`: a brace of JSX ends one if it stands in script. -/
def Token.endsHole? (token : Token) (s : Context) : Option Opener :=
  if token.kind = .templateTail then some .templateHole
  else if token = ⟨.jsxMark, ['}']⟩ ∧ s.region.isJsx = false then some .jsxHole
  else none

/-- The tokens that were read, each with the context in which it was read. -/
def contextsOf (s : Context) : List Entry → List (Context × Token)
  | [] => []
  | (token, next) :: more => (s, token) :: contextsOf next more

theorem contextsOf_append (s : Context) (seen : List Entry) (entry : Entry) :
    contextsOf s (seen ++ [entry]) = contextsOf s seen ++ [(contextAfter s seen, entry.1)] := by
  induction seen generalizing s with
  | nil => rfl
  | cons first seen ih =>
    rw [List.cons_append, contextsOf, ih]
    rfl

theorem mem_contextsOf {s : Context} {seen : List Entry} {read : Context × Token} :
    read ∈ contextsOf s seen ↔ ∃ before entry after,
      seen = before ++ entry :: after ∧ read = (contextAfter s before, entry.1) := by
  induction seen generalizing s with
  | nil => simp [contextsOf]
  | cons first seen ih =>
    rw [contextsOf, List.mem_cons, ih]
    constructor
    · rintro (rfl | ⟨before, entry, after, rfl, rfl⟩)
      · exact ⟨[], first, seen, rfl, rfl⟩
      · exact ⟨first :: before, entry, after, rfl, rfl⟩
    · rintro ⟨before, entry, after, hseen, rfl⟩
      cases before with
      | nil =>
        obtain ⟨rfl, rfl⟩ := List.cons.inj hseen
        exact .inl rfl
      | cons _ before =>
        obtain ⟨rfl, rfl⟩ := List.cons.inj hseen
        exact .inr ⟨before, entry, after, rfl, rfl⟩

/-- Where the contexts do not count, the tokens alone do. -/
theorem countP_contextsOf (p : Token → Bool) (s : Context) (seen : List Entry) :
    (contextsOf s seen).countP (fun read => p read.2) = seen.countP (fun entry => p entry.1) := by
  induction seen generalizing s with
  | nil => rfl
  | cons entry seen ih =>
    rw [contextsOf, List.countP_cons, List.countP_cons, ih]

section Steps

variable {jsx : Bool} {s next : Context} {text : Text} {step : Step} {token : Token}
  {kept : List Region}

theorem beginsHole?_templateHole :
    token.beginsHole? = some .templateHole ↔ token.kind = .templateHead := by
  unfold Token.beginsHole?
  split
  · simp_all
  · split <;> simp_all

theorem beginsHole?_jsxHole : token.beginsHole? = some .jsxHole ↔ token = ⟨.jsxMark, ['{']⟩ := by
  unfold Token.beginsHole?
  split
  · next hkind =>
    simp only [Option.some.injEq, reduceCtorEq, false_iff]
    rintro rfl
    cases hkind
  · split <;> simp_all

theorem endsHole?_templateHole :
    token.endsHole? s = some .templateHole ↔ token.kind = .templateTail := by
  unfold Token.endsHole?
  split
  · simp_all
  · split <;> simp_all

theorem endsHole?_jsxHole : token.endsHole? s = some .jsxHole ↔
    token = ⟨.jsxMark, ['}']⟩ ∧ s.region.isJsx = false := by
  unfold Token.endsHole?
  split
  · next hkind =>
    simp only [Option.some.injEq, reduceCtorEq, false_iff]
    rintro ⟨rfl, -⟩
    cases hkind
  · split <;> simp_all

theorem filterMap_hole?_opens (token : Token) (s : Context) :
    (token.opens s).filterMap Region.hole? = token.beginsHole?.toList := by
  obtain ⟨kind, text⟩ := token
  unfold Token.opens Token.beginsHole?
  split
  · split <;> simp_all [Region.hole?]
  · simp_all [Region.hole?]
  · simp_all [Region.hole?]
  · simp_all [Region.hole?]
  · split <;> simp_all [Region.hole?]
  · split <;> simp_all [Region.hole?]
  · simp_all

theorem filterMap_hole?_closes (token : Token) (s : Context) :
    (token.closes s).filterMap Region.hole? = (token.endsHole? s).toList := by
  obtain ⟨kind, text⟩ := token
  unfold Token.closes Token.endsHole?
  split
  · split <;> simp_all [Region.hole?]
  · simp_all [Region.hole?]
  · split <;> simp_all [Region.hole?]
  · split <;> simp_all [Region.hole?]
  · split
    · simp_all
    · split <;> simp_all [Region.hole?]
  · simp_all

/-- What a token does to the holes: the innermost one may end, and another one may begin. -/
theorem Keeps.holes_eq (h : Keeps s token next kept) : ∃ around,
    s.holes = (token.endsHole? s).toList ++ around ∧
      next.holes = token.beginsHole?.toList ++ around := by
  refine ⟨kept.filterMap Region.hole?, ?_, ?_⟩
  · rw [Context.holes, h.1, List.filterMap_append, filterMap_hole?_closes]
  · rw [Context.holes, h.2, List.filterMap_append, filterMap_hole?_opens]

/-- A middle piece of a template literal is read in a substitution. -/
theorem Takes.region_of_templateMiddle (h : Takes jsx s text step)
    (hkind : step.kind = .templateMiddle) : s.region = .templateHole s.openBraces.length := by
  cases h with
  | templateMiddle hregion => exact hregion
  | _ => cases hkind

end Steps

/-! ## Every run -/

section Runs

variable {jsx : Bool} {text rest : Text} {seen : List Entry} {s : Context}

theorem count_toList (hole? : Option Opener) (hole : Opener) :
    hole?.toList.count hole = if hole? = some hole then 1 else 0 := by
  cases hole? <;> simp [List.count_singleton]

/-- As many holes of a sort are around the lexer as were begun and not ended. -/
theorem Reached.count_holes (h : Reached jsx text seen s rest) (hole : Opener) :
    s.holes.count hole +
        (contextsOf {} seen).countP (fun read => read.2.endsHole? read.1 = some hole) =
      seen.countP (fun entry => entry.1.beginsHole? = some hole) := by
  induction h with
  | start => rfl
  | hashbang => rfl
  | @step seen s rest hseen hrest hstart ih =>
    obtain ⟨kept, hkept⟩ := (hseen.step hrest hstart).exists_keeps
    rw [← hseen.context_eq] at hkept
    obtain ⟨around, hbefore, hafter⟩ := hkept.holes_eq
    replace hafter : (s.step jsx rest).next.holes = _ := hafter
    rw [hbefore, List.count_append, count_toList] at ih
    rw [hafter, contextsOf_append, ← hseen.context_eq, List.count_append, count_toList,
      List.countP_append, List.countP_append, List.countP_singleton, List.countP_singleton]
    simp only [decide_eq_true_eq]
    omega

/-- Where the lexer reads a middle piece of a template literal, it is in a substitution. -/
theorem Reached.holes_of_templateMiddle {entry : Entry}
    (h : Reached jsx text (seen ++ [entry]) s rest) (hkind : entry.1.kind = .templateMiddle) :
    .templateHole ∈ (contextAfter {} seen).holes := by
  obtain ⟨s', rest', step, hreached, htakes, rfl, -⟩ :=
    h.exists_takes_of_kind fun _ => by simp [hkind]
  have hregion := htakes.region_of_templateMiddle hkind
  have hregions := hreached.stacked.regions_eq (by simp [hregion])
  rw [← hreached.context_eq, Context.holes, hregions, hregion]
  exact List.mem_cons_self ..

end Runs

/-! ## The tokens around holes -/

/-- After any beginning of the tokens of a text, each substitution that was opened is either closed
    or around the lexer, and so is each expression within JSX; of the braces of JSX, only those that
    stand in script close one.  A middle piece of a template literal only comes where a substitution
    is open.  And of the holes around the lexer the next token takes away at most the innermost one,
    and only if the token is the end of such a hole. -/
theorem holes_balanced {jsx : Bool} {text : Text} {seen later : List Entry}
    (htrace : text.trace jsx = seen ++ later) :
    (contextAfter {} seen).regions.countP (fun region => region.hole? = some .templateHole) +
        seen.countP (fun entry => entry.1.kind = .templateTail) =
      seen.countP (fun entry => entry.1.kind = .templateHead) ∧
    (contextAfter {} seen).regions.countP (fun region => region.hole? = some .jsxHole) +
        (contextsOf {} seen).countP
          (fun read => read.2 = ⟨.jsxMark, ['}']⟩ ∧ read.1.region.isJsx = false) =
      seen.countP (fun entry => entry.1 = ⟨.jsxMark, ['{']⟩) ∧
    ∀ token next more, later = (token, next) :: more →
      (token.kind = .templateMiddle →
        seen.countP (fun entry => entry.1.kind = .templateTail) <
          seen.countP (fun entry => entry.1.kind = .templateHead)) ∧
      ∃ around, (contextAfter {} seen).holes =
          (token.endsHole? (contextAfter {} seen)).toList ++ around ∧
        next.holes = token.beginsHole?.toList ++ around := by
  obtain ⟨rest, hreached⟩ := reached_of_trace_eq htrace
  have htemplate := hreached.count_holes .templateHole
  have hjsx := hreached.count_holes .jsxHole
  simp only [beginsHole?_templateHole, endsHole?_templateHole] at htemplate
  simp only [beginsHole?_jsxHole, endsHole?_jsxHole] at hjsx
  rw [countP_contextsOf (fun token => token.kind = .templateTail)] at htemplate
  refine ⟨?_, ?_, ?_⟩
  · rw [← htemplate, count_holes]
  · rw [← hjsx, count_holes]
  · rintro token next more rfl
    rw [List.append_cons] at htrace
    obtain ⟨_, hnext⟩ := reached_of_trace_eq htrace
    obtain ⟨kept, hkept⟩ := hnext.exists_keeps
    refine ⟨fun hkind => ?_, hkept.holes_eq⟩
    have hhole := List.count_pos_iff.2 (hnext.holes_of_templateMiddle hkind)
    omega

/-- An element with an expression in a substitution, and a parenthesis that closes nothing: behind
    them the substitution is still open, and the next piece of the template literal is read. -/
theorem holes_balanced_middle :
    ((Text.trace true "\x60$\x7b<a>\x7bb\x7d</a>)\x7d-$\x7b".toList).drop 12).head?.map Prod.fst =
        some ⟨.templateMiddle, "\x7d-$\x7b".toList⟩ ∧
      ((Text.trace true "\x60$\x7b<a>\x7bb\x7d</a>)\x7d-$\x7b".toList).take 12).countP
          (fun entry => entry.1.kind = .templateTail) <
        ((Text.trace true "\x60$\x7b<a>\x7bb\x7d</a>)\x7d-$\x7b".toList).take 12).countP
          (fun entry => entry.1.kind = .templateHead) := by
  let trace := Text.trace true "\x60$\x7b<a>\x7bb\x7d</a>)\x7d-$\x7b".toList
  have hlater : trace.drop 12 =
      (⟨.templateMiddle, "\x7d-$\x7b".toList⟩, contextAfter {} trace) :: [] := by
    decide +kernel
  have hbalanced := holes_balanced (List.take_append_drop 12 trace).symm
  exact ⟨by decide +kernel, (hbalanced.2.2 _ _ _ hlater).1 rfl⟩

end SyntaxColor
