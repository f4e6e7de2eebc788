/-
  Highlighting for a terminal, under a switch that turns colors on and off for everybody.

  Highlighting can be forced: then the switch is on while it lasts, and afterwards as before.
-/
import SyntaxColor.Palette.Terminal

namespace SyntaxColor

/-- What is computed under the color switch, which it may change. -/
abbrev Switched := StateM Bool

namespace Highlight

/-- Whether a source would be styled. -/
def wouldColor (forceColor : Bool) : Switched Bool := do
  return forceColor || (← get)

/-- What the palette that the switch selects makes of a source. -/
def paint (palette : Bool → Palette) (source : Text) : Switched Text := do
  return (palette (← get)).paint source

/-- What `action` gives with the switch on; afterwards the switch is as before. -/
def withColors {α : Type} (action : Switched α) : Switched α := do
  let previous ← get
  set true
  let result ← action
  set previous
  return result

/-- The source in the colors of a terminal, or as it is if there are to be none. -/
def forTerminal (forceColor : Bool) (source : Text) : Switched Text := do
  if source = [] then return source
  if forceColor then withColors (paint Terminal.palette source)
  else if ← wouldColor false then paint Terminal.palette source
  else return source

end Highlight
end SyntaxColor
