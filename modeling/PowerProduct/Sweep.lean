import PowerProduct.SubsetTable

/-!
# The sweep over the exponent bits

Blocks of exponents are read bit by bit, from the highest bit of the longest
exponent down to bit zero. At each bit the accumulator is squared once, and
then each block contributes the table entry of the bases whose exponents have
that bit. After the bits from the top down to bit `low` the accumulator is the
product of the powers with the exponents divided by `2 ^ low`.
-/

set_option autoImplicit false

namespace PowerProduct

/-- Only blocks of at least one entry can be counted or cut. -/
def requireBlockWidth (width : Nat) : Outcome Unit :=
  if width = 0 then abort .zeroBlockWidth else .ok ()

/-- Consecutive blocks of `width` entries; the last one may be shorter. -/
def blocks {α : Type} (width : Nat) : List α → List (List α)
  | [] => []
  | x :: rest => (x :: rest.take (width - 1)) :: blocks width (rest.drop (width - 1))
termination_by xs => xs.length
decreasing_by simp only [List.length_drop, List.length_cons]; omega

/-- The number of blocks of `width` entries that `size` entries make. -/
def blockCount (size width : Nat) : Nat := (size + width - 1) / width

/-- Bit `index` of every exponent of a block as a mask, the first exponent at
the lowest bit. -/
def bitColumn (block : List Nat) (index : Nat) : Nat :=
  block.foldr (fun exponent mask => (mask <<< 1) ||| (exponent.testBit index).toNat) 0

/-- The number of bits of the longest exponent. -/
def maxBitLength (exponents : List Nat) : Nat :=
  exponents.foldl (fun bits exponent => max bits (bitLength exponent)) 0

namespace Sweep

/-- The accumulator times the table entries that bit `index` selects. A block
in which no exponent has the bit is passed over. -/
def multiplyEntries (modulus index : Nat) : List (SubsetTable × List Nat) → Nat → Outcome Nat
  | [], acc => .ok acc
  | (table, block) :: rest, acc => do
      let mask := bitColumn block index
      if mask = 0 then multiplyEntries modulus index rest acc
      else
        let entry ← table.entry mask
        multiplyEntries modulus index rest (← Modular.reduce (acc * entry) modulus)

/-- The work at bit `index`: one squaring, then one factor for each block. -/
def atBit (pairs : List (SubsetTable × List Nat)) (modulus acc index : Nat) : Outcome Nat := do
  multiplyEntries modulus index pairs (← Modular.reduce (acc * acc) modulus)

/-- The bit positions below `high` down to `low`. -/
def positions (low high : Nat) : List Nat := (List.range' low (high - low)).reverse

/-- The accumulator after the bits below `high` down to `low`. -/
def between (pairs : List (SubsetTable × List Nat)) (modulus low high acc : Nat) : Outcome Nat :=
  (positions low high).foldlM (atBit pairs modulus) acc

/-- The product of the powers of all pairs by `modulus`. Block `k` of `width`
exponents goes with the table at position `k`, and there is one table for each
block. -/
def run (tables : List SubsetTable) (exponents : List Nat) (width modulus : Nat) :
    Outcome Nat := do
  requireBlockWidth width
  if tables.length ≠ blockCount exponents.length width then
    abort (.tableCount tables.length (blockCount exponents.length width))
  between (tables.zip (blocks width exponents)) modulus 0 (maxBitLength exponents)
    (← Modular.reduce 1 modulus)

end Sweep

/-! ## Blocks and bit columns -/

theorem requireBlockWidth_of_pos {width : Nat} (h : 0 < width) :
    requireBlockWidth width = .ok () :=
  if_neg (Nat.ne_of_gt h)

@[simp] theorem blocks_nil {α : Type} (width : Nat) : blocks width ([] : List α) = [] := by
  rw [blocks]

/-- Nothing is lost or moved when a list is cut into blocks. -/
@[simp] theorem flatten_blocks {α : Type} (width : Nat) (xs : List α) :
    (blocks width xs).flatten = xs := by
  fun_induction blocks width xs with
  | case1 => rfl
  | case2 x rest ih => rw [List.flatten_cons, ih, List.cons_append, List.take_append_drop]

@[simp] theorem bitColumn_nil (index : Nat) : bitColumn [] index = 0 := rfl

theorem bitColumn_cons (exponent : Nat) (block : List Nat) (index : Nat) :
    bitColumn (exponent :: block) index =
      (bitColumn block index <<< 1) ||| (exponent.testBit index).toNat := rfl

end PowerProduct
