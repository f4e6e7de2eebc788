/-
  Texts, their line breaks and their lines.

  A text is a list of characters, so that what is said of a text can be proved along it.
  `flatMap_toText_lines`: the lines of a text, each with its line break, make up the text.
-/

namespace SyntaxColor

/-- A text is the list of its characters. -/
abbrev Text := List Char

/-- Texts that are compared as equal are equal. -/
instance : LawfulBEq Text := inferInstanceAs (LawfulBEq (List Char))

namespace Text

/-- Whether `c` ends a line: line feed, carriage return, or one of the two Unicode separators. -/
def isLineEnd (c : Char) : Bool :=
  c = '\n' || c = '\r' || c = '\u2028' || c = '\u2029'

/-- How many characters at the start of the text satisfy `p`, up to the first that does not. -/
def runLength (p : Char → Bool) (text : Text) : Nat := (text.takeWhile p).length

/-- The length of the line break at the start of the text, 0 if there is none.  A carriage
    return and the line feed after it are one line break. -/
def lineBreakLength : Text → Nat
  | '\r' :: '\n' :: _ => 2
  | c :: _ => if isLineEnd c then 1 else 0
  | [] => 0

/-- A line and the line break after it, which is empty at the end of the text. -/
structure Line where
  content : Text
  lineBreak : Text
  deriving DecidableEq

/-- The whole line, its line break included. -/
def Line.toText (line : Line) : Text := line.content ++ line.lineBreak

/-- The line that has `c` before it. -/
def Line.cons (c : Char) (line : Line) : Line := ⟨c :: line.content, line.lineBreak⟩

/-- The lines of a text; the last one has no line break, and may be empty. -/
def lines : Text → List Line
  | [] => [⟨[], []⟩]
  | '\r' :: '\n' :: rest => ⟨[], ['\r', '\n']⟩ :: lines rest
  | c :: rest =>
    if isLineEnd c then ⟨[], [c]⟩ :: lines rest else (lines rest).modifyHead (Line.cons c)

theorem lines_ne_nil (text : Text) : lines text ≠ [] := by
  fun_induction lines text with
  | case4 c rest _ _ ih => cases h : lines rest <;> simp_all
  | _ => simp

theorem flatMap_toText_lines (text : Text) : (lines text).flatMap Line.toText = text := by
  fun_induction lines text with
  | case4 c rest _ _ ih =>
    cases h : lines rest with
    | nil => exact absurd h (lines_ne_nil rest)
    | cons line more =>
      rw [h] at ih
      simpa [Line.toText, Line.cons] using ih
  | _ => simp_all [Line.toText]

end Text
end SyntaxColor
