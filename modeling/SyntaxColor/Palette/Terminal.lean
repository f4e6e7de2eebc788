/-
  The colors of a terminal.

  A style is a sequence that turns it on, the text, and a sequence that turns everything off.
  Where the text itself turns everything off the style is turned on again.
-/
import SyntaxColor.Palette

namespace SyntaxColor.Terminal

/-- The sequence that selects how what follows is shown. -/
def select (parameters : String) : Text := ['\x1b', '['] ++ parameters.toList ++ ['m']

/-- The sequence that turns every style off. -/
def reset : Text := ['\x1b', '[', '0', 'm']

/-- The text with `opening` put behind each `reset` in it. -/
def reopen (opening : Text) : Text → Text
  | '\x1b' :: '[' :: '0' :: 'm' :: rest => reset ++ opening ++ reopen opening rest
  | c :: rest => c :: reopen opening rest
  | [] => []

/-- The text as shown with these parameters. -/
def shown (parameters : String) (text : Text) : Text :=
  select parameters ++ reopen (select parameters) text ++ reset

/-- How each category is shown: in cyan, yellow, magenta, green or grey, and what is invalid in
    bold white on red. -/
def parameters? : Category → Option String
  | .keyword => some "36"
  | .capitalized | .jsxIdentifier | .punctuator => some "33"
  | .number | .regex => some "35"
  | .string => some "32"
  | .comment => some "90"
  | .invalid => some "1;41;37"
  | .uncolored => none

/-- The palette of a terminal.  Without colors its styles leave every text as it is. -/
def palette (colors : Bool) : Palette :=
  ⟨fun category => (parameters? category).map fun parameters =>
    if colors then shown parameters else id, rfl⟩

end SyntaxColor.Terminal
