/-!
# Ranges of Code Points

A property of characters given by a table of inclusive, ascending ranges of code points.

A table is looked up by going through it, from the lowest range to the highest.
-/

namespace Overseer.Text

/-- Inclusive ranges of code points, in ascending order. -/
abbrev CodeRanges := List (Nat × Nat)

/-- Whether a range of the table holds the character. -/
def CodeRanges.contains (table : CodeRanges) (c : Char) : Bool :=
  table.any fun range => range.1 ≤ c.toNat && c.toNat ≤ range.2

end Overseer.Text
