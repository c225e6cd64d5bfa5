import PowerProduct.Word

/-!
# Window widths

A window is a block of bases that share one table of products; a window of
width `w` has a table of `2 ^ w` entries. Widths from 1 to `maxWidth` are
supported. `suggestedWidth` chooses the width that makes the multiplications
per pair fewest: about `2 ^ w` for the table and one per exponent bit, shared
by the `w` pairs of the block.
-/

set_option autoImplicit false

namespace PowerProduct.Window

/-- The largest supported width. -/
def maxWidth : Nat := 16

/-- The width that is used unless another is chosen. -/
def defaultWidth : Nat := 7

/-- The width has to be supported. -/
def requireWidth (width : Nat) : Outcome Unit :=
  if width = 0 ∨ maxWidth < width then refuse (.windowOutOfRange width maxWidth) else .ok ()

/-- The number of entries of a table for `width` bases, one for each subset. -/
def tableSize (width : Nat) : Nat := Nat.pow 2 width

/-- The bytes of one table of width `width` whose entries are as wide as
`modulus`. -/
def tableBytes (width : UInt64) (modulus : Buffer) : UInt64 :=
  Word.powerOfTwo width * UInt64.ofNat modulus.length

/-- The multiplications for a block of width `width`: its table and one for
each exponent bit. -/
def blockCost (bits width : Nat) : Nat := tableSize width + bits

/-- The width `a` costs less per pair than the width `b`. -/
def cheaper (bits a b : Nat) : Bool := blockCost bits a * b < blockCost bits b * a

/-- The better of the width `best` so far and the wider `width`: the narrower
of two equally good widths stays. -/
def better (bits best width : Nat) : Nat := if cheaper bits width best then width else best

/-- The least of the best widths from 1 to `upper`. -/
def bestUpTo (bits upper : Nat) : Nat := (List.range' 1 upper).foldl (better bits) 1

/-- The width for exponents of `bits` bits. Widths above the logarithm of
`bits` by more than one only enlarge the table and are not tried. -/
def suggestedWidth (bits : UInt64) : Outcome Nat := do
  if bits < 2 then return 1
  return bestUpTo bits.toNat (min ((← Word.ceilLog2 bits) + 1) maxWidth)

theorem requireWidth_eq_ok {width : Nat} :
    requireWidth width = .ok () ↔ 1 ≤ width ∧ width ≤ maxWidth := by
  unfold requireWidth refuse
  split <;> simp <;> omega

/-- The check of a width, as the bounds it keeps. -/
theorem requireWidth_eq (width : Nat) :
    requireWidth width =
      if 1 ≤ width ∧ width ≤ maxWidth then .ok ()
      else refuse (.windowOutOfRange width maxWidth) := by
  by_cases hwidth : 1 ≤ width ∧ width ≤ maxWidth
  · rw [if_pos hwidth]
    exact requireWidth_eq_ok.2 hwidth
  · rw [if_neg hwidth]
    exact if_pos (by omega)

end PowerProduct.Window
