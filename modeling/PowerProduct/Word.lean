import PowerProduct.Buffer

/-!
# Powers of two in words

Sizes of tables are powers of two in 64-bit words. `ceilLog2` counts the bits
of a word's predecessor, so it is the least exponent whose power of two is not
below the word.
-/

set_option autoImplicit false

namespace PowerProduct.Word

/-- The word `2 ^ exponent`. -/
def powerOfTwo (exponent : UInt64) : UInt64 := 1 <<< exponent

/-- The number of zero bits above the highest bit that is set. -/
def leadingZeros (word : UInt64) : Nat := 64 - bitLength word.toNat

/-- The least exponent whose power of two is at least `word`. -/
def ceilLog2 (word : UInt64) : Outcome Nat :=
  if word = 0 then abort .logarithmOfZero else .ok (64 - leadingZeros (word - 1))

end PowerProduct.Word
