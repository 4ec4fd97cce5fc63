/-!
# Ranges of code points

A table of a character class is a list of ranges of code points.
-/

namespace FixBindings.Text

/-- The code points from `first` to `last`, both included. -/
structure CodeRange where
  /-- The first code point. -/
  first : Nat
  /-- The last code point. -/
  last : Nat
  deriving DecidableEq, Repr

/-- Whether a code point lies in the range. -/
def CodeRange.contains (r : CodeRange) (n : Nat) : Bool :=
  r.first ≤ n && n ≤ r.last

/-- Whether a character lies in one of the ranges. -/
def inRanges (rs : List CodeRange) (c : Char) : Bool :=
  rs.any fun r ↦ r.contains c.toNat

end FixBindings.Text
