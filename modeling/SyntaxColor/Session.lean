/-
  Sessions: what several uses of the color switch see of each other.
-/
import SyntaxColor.Highlight

namespace SyntaxColor.Session

/-- One use of the color switch. -/
inductive Action where
  | setSwitch (colors : Bool)
  | wouldColor (forceColor : Bool)
  | highlight (forceColor : Bool) (source : Text)
  /-- Paint with a palette, which may depend on the switch. -/
  | paint (palette : Bool → Palette) (source : Text)

/-- What an action gives. -/
inductive Result where
  | done
  | flag (value : Bool)
  | text (value : Text)
  deriving DecidableEq

/-- Do one action. -/
def Action.run : Action → Switched Result
  | .setSwitch colors => do
    set colors
    return .done
  | .wouldColor forceColor => do return .flag (← Highlight.wouldColor forceColor)
  | .highlight forceColor source => do return .text (← Highlight.forTerminal forceColor source)
  | .paint palette source => do return .text (← Highlight.paint palette source)

/-- Do the actions in order: what each gives, and the switch after it. -/
def run : List Action → Switched (List (Result × Bool))
  | [] => return []
  | action :: rest => do
    let result ← action.run
    let colors ← get
    return (result, colors) :: (← run rest)

end SyntaxColor.Session
