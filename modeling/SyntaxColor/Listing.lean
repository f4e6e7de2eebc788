/-
  Listings: the fragments of a source, one on each line.
-/
import SyntaxColor.Fragment
import SyntaxColor.Text.Quoted

namespace SyntaxColor

/-- The category of the fragment, a tab, and its text in quotes. -/
def Fragment.listingLine (fragment : Fragment) : Text :=
  fragment.category.name.toList ++ ['\t'] ++ fragment.text.quoted ++ ['\n']

/-- The fragments of a source, one on each line. -/
def Text.listing (source : Text) : Text := source.fragments.flatMap Fragment.listingLine

end SyntaxColor
