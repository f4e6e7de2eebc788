/-
  Palettes, and the text that a palette makes of a source.

  A style is put on each line of a fragment on its own.  Line breaks stay as they are, and so do
  empty lines.
-/
import SyntaxColor.Fragment

namespace SyntaxColor

/-- A style is what it makes of a text. -/
abbrev Style := Text → Text

/-- The styles of the categories; uncolored text never has one. -/
structure Palette where
  style? : Category → Option Style
  style?_uncolored : style? .uncolored = none

namespace Palette

/-- The palette without styles. -/
def empty : Palette := ⟨fun _ => none, rfl⟩

/-- The palette in which `category` has this style, the same palette if it cannot have one. -/
def insert (palette : Palette) (category : Category) (style : Style) : Palette :=
  if h : category = .uncolored then palette
  else
    { style? := fun other => if other = category then some style else palette.style? other
      style?_uncolored := by simp [Ne.symm h, palette.style?_uncolored] }

/-- The palette with all of these styles, of which a later one replaces an earlier one. -/
def insertMany (palette : Palette) (styles : List (Category × Style)) : Palette :=
  styles.foldl (fun palette entry => palette.insert entry.1 entry.2) palette

end Palette

/-- The line in this style, if there is anything on it, and its line break. -/
def Text.Line.paint (style : Style) (line : Text.Line) : Text :=
  (if line.content = [] then [] else style line.content) ++ line.lineBreak

/-- What a palette makes of a fragment. -/
def Fragment.paint (palette : Palette) (fragment : Fragment) : Text :=
  match palette.style? fragment.category with
  | none => fragment.text
  | some style => fragment.text.lines.flatMap (Text.Line.paint style)

/-- What a palette makes of a source text. -/
def Palette.paint (palette : Palette) (text : Text) : Text :=
  text.fragments.flatMap (Fragment.paint palette)

end SyntaxColor
