/-!
# Ranges of code points

A character class of the character database is given as a list of inclusive
ranges of code points. `CodeRange.covers` is membership in such a class.
-/

set_option autoImplicit false

namespace PowerProduct.Text

/-- The code points from `first` to `last`, both included. -/
structure CodeRange where
  first : Nat
  last : Nat

namespace CodeRange

/-- The code point `code` lies in the range. -/
def contains (range : CodeRange) (code : Nat) : Bool :=
  range.first ≤ code && code ≤ range.last

/-- The character `c` lies in one of the ranges. -/
def covers (ranges : List CodeRange) (c : Char) : Bool :=
  ranges.any fun range => range.contains c.toNat

end CodeRange

end PowerProduct.Text
