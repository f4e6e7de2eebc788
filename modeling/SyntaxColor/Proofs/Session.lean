/-
  Sessions under the color switch.

  `run_forTerminal`: however highlighting comes to its result, that is what the palette of a
  terminal makes of the source, with colors if they are forced or switched on; the switch stays as
  it is.
  `session_answers`: so each action of a session answers by the value that was set last before it,
  and nothing but setting the switch changes it.
-/
import SyntaxColor.Proofs.Palette
import SyntaxColor.Session

namespace SyntaxColor

/-! ## Highlighting -/

/-- Without colors a terminal shows the source as it is. -/
theorem paint_terminal_false (source : Text) : (Terminal.palette false).paint source = source := by
  refine paint_eq_self (fun category style hstyle text => ?_) source
  obtain ⟨parameters, -, rfl⟩ := Option.map_eq_some_iff.1 hstyle
  rfl

theorem run_forTerminal (forceColor : Bool) (source : Text) (colors : Bool) :
    ((Highlight.forTerminal forceColor source).run colors).run =
      ((Terminal.palette (forceColor || colors)).paint source, colors) := by
  by_cases hsource : source = []
  · subst hsource
    rfl
  · unfold Highlight.forTerminal
    rw [if_neg hsource]
    cases forceColor with
    | true => rfl
    | false =>
      cases colors with
      | true => rfl
      | false =>
        have hsame := paint_terminal_false source
        exact congrArg (·, false) hsame.symm

/-! ## Sessions -/

namespace Session

/-- The value to which an action sets the switch. -/
def Action.set? : Action → Option Bool
  | .setSwitch colors => some colors
  | _ => none

/-- The value to which these actions set the switch last, `colors` if they do not set it. -/
def lastSet (colors : Bool) (actions : List Action) : Bool :=
  (actions.filterMap Action.set?).getLast?.getD colors

/-- What an action is to give under the switch.  A source is highlighted as the palette of a
    terminal paints it, with colors if they are forced or the switch is on. -/
def Action.answer (colors : Bool) : Action → Result
  | .setSwitch _ => .done
  | .wouldColor forceColor => .flag (forceColor || colors)
  | .highlight forceColor source => .text ((Terminal.palette (forceColor || colors)).paint source)
  | .paint palette source => .text ((palette colors).paint source)

theorem lastSet_cons (colors : Bool) (action : Action) (rest : List Action) :
    lastSet colors (action :: rest) = lastSet (action.set?.getD colors) rest := by
  unfold lastSet
  cases hset : action.set? with
  | none => rw [List.filterMap_cons_none hset]; rfl
  | some value =>
    rw [List.filterMap_cons_some hset, List.getLast?_cons]
    cases (rest.filterMap Action.set?).getLast? <;> rfl

/-- One action answers by the switch, and only setting it changes it. -/
theorem run_action (action : Action) (colors : Bool) :
    (action.run.run colors).run = (action.answer colors, action.set?.getD colors) := by
  cases action with
  | setSwitch => rfl
  | wouldColor => rfl
  | highlight forceColor source =>
    exact congrArg (fun result => (Result.text result.1, result.2))
      (run_forTerminal forceColor source colors)
  | paint => rfl

theorem run_cons (action : Action) (rest : List Action) (colors : Bool) :
    ((run (action :: rest)).run colors).run =
      ((action.answer colors, action.set?.getD colors) ::
        ((run rest).run (action.set?.getD colors)).run.1,
      ((run rest).run (action.set?.getD colors)).run.2) := by
  have hbind : ((run (action :: rest)).run colors).run =
      (((action.run.run colors).run.1, (action.run.run colors).run.2) ::
        ((run rest).run (action.run.run colors).run.2).run.1,
      ((run rest).run (action.run.run colors).run.2).run.2) := rfl
  rw [hbind, run_action]

/-- Afterwards the switch has the value that was set last. -/
theorem run_switch (actions : List Action) (colors : Bool) :
    ((run actions).run colors).run.2 = lastSet colors actions := by
  induction actions generalizing colors with
  | nil => rfl
  | cons action rest ih => rw [run_cons, lastSet_cons, ih]

/-- An action answers by the value that was set last before it. -/
theorem run_answers (before after : List Action) (action : Action) (colors : Bool) :
    ((run (before ++ action :: after)).run colors).run.1[before.length]? =
      some (action.answer (lastSet colors before), lastSet colors (before ++ [action])) := by
  induction before generalizing colors with
  | nil =>
    rw [List.nil_append, List.nil_append, run_cons, lastSet_cons]
    rfl
  | cons first before ih =>
    rw [List.cons_append, List.cons_append, run_cons, lastSet_cons, lastSet_cons]
    exact ih (first.set?.getD colors)

/-- In every session, from either value of the switch, each action answers by the value that was
    set last before it, and the switch after it is the value that was set last.  A source is
    highlighted as the palette of a terminal paints it with colors forced or switched on; what is
    forced asks neither the switch nor the actions before.  Where a source is given back unpainted,
    for want of colors or because it is empty, painting it would give the same. -/
theorem session_answers (colors : Bool) (before after : List Action) (action : Action) :
    ((run (before ++ action :: after)).run colors).run.1[before.length]? =
        some (action.answer (lastSet colors before), lastSet colors (before ++ [action])) ∧
      ((run (before ++ action :: after)).run colors).run.2 =
        lastSet colors (before ++ action :: after) ∧
      (∀ source, (Terminal.palette false).paint source = source) ∧
      ∀ palette : Palette, palette.paint [] = [] :=
  ⟨run_answers before after action colors, run_switch _ colors, paint_terminal_false,
    fun _ => rfl⟩

end Session
end SyntaxColor
