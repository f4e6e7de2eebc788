/-
  Sets of code points, written as tables of inclusive ranges.

  The character properties of the Unicode standard are data: each is one table, and
  `RangeTable.covers` is the only way a table is read.
-/

namespace SyntaxColor.Unicode

/-- A set of code points: the first and the last of each range, in increasing order. -/
abbrev RangeTable := List (Nat × Nat)

/-- Whether the code point of `c` lies in one of the ranges. -/
def RangeTable.covers (table : RangeTable) (c : Char) : Bool :=
  table.any fun range => range.1 ≤ c.toNat && c.toNat ≤ range.2

/-- Whether `c` is one of the first 128 code points. -/
def isAscii (c : Char) : Bool := c.toNat < 128

end SyntaxColor.Unicode
