import Mathlib
import PowerProduct.Proofs.SubsetProduct
import PowerProduct.Sweep

/-!
# The product of powers

`productOfPowers` is what a request asks for. One bit of every exponent splits
off as a factor beside the square of the rest (`productOfPowers_shiftExponents`).
Within a block that factor is the product of the subset whose mask is the bit
column (`subsetProduct_bitColumn`). A request is cut into blocks by position only, so
its bases and its exponents are cut alike (`blocks_map`).
-/

set_option autoImplicit false

namespace PowerProduct

/-- The product of the powers of all pairs of a base and an exponent. -/
def productOfPowers (pairs : List (Nat × Nat)) : Nat := (pairs.map fun pair => pair.1 ^ pair.2).prod

@[simp] theorem productOfPowers_nil : productOfPowers [] = 1 := rfl

@[simp] theorem productOfPowers_cons (pair : Nat × Nat) (rest : List (Nat × Nat)) :
    productOfPowers (pair :: rest) = pair.1 ^ pair.2 * productOfPowers rest := by
  simp [productOfPowers]

theorem productOfPowers_append (a b : List (Nat × Nat)) :
    productOfPowers (a ++ b) = productOfPowers a * productOfPowers b := by
  simp [productOfPowers]

/-- The order of the pairs does not matter. -/
theorem productOfPowers_perm {pairs pairs' : List (Nat × Nat)} (h : pairs.Perm pairs') :
    productOfPowers pairs = productOfPowers pairs' :=
  (h.map _).prod_eq

/-! ## Bits of the exponents -/

/-- The pairs with every exponent divided by `2 ^ index`. -/
def shiftExponents (index : Nat) (pairs : List (Nat × Nat)) : List (Nat × Nat) :=
  pairs.map fun pair => (pair.1, pair.2 / 2 ^ index)

/-- The pairs with bit `index` of every exponent. -/
def exponentBits (index : Nat) (pairs : List (Nat × Nat)) : List (Nat × Nat) :=
  pairs.map fun pair => (pair.1, (pair.2.testBit index).toNat)

@[simp] theorem shiftExponents_zero (pairs : List (Nat × Nat)) :
    shiftExponents 0 pairs = pairs := by
  simp [shiftExponents]

theorem div_two_pow_eq (x index : Nat) :
    x / 2 ^ index = x / 2 ^ (index + 1) + x / 2 ^ (index + 1) + (x.testBit index).toNat := by
  have hhalf : x / 2 ^ (index + 1) = x / 2 ^ index / 2 := by
    rw [pow_succ, Nat.div_div_eq_div_mul]
  rw [hhalf, Nat.toNat_testBit]
  omega

/-- The powers at bit `index` are the squares of those above it, times the
bases that have the bit. -/
theorem productOfPowers_shiftExponents (index : Nat) (pairs : List (Nat × Nat)) :
    productOfPowers (shiftExponents index pairs) =
      productOfPowers (shiftExponents (index + 1) pairs) *
        productOfPowers (shiftExponents (index + 1) pairs) *
        productOfPowers (exponentBits index pairs) := by
  induction pairs with
  | nil => rfl
  | cons pair rest ih =>
      simp only [shiftExponents, exponentBits, List.map_cons, productOfPowers_cons] at ih ⊢
      rw [ih, div_two_pow_eq pair.2 index, pow_add, pow_add]
      ring

/-- Above the longest exponent nothing is left to multiply. -/
theorem productOfPowers_shiftExponents_eq_one {index : Nat} {pairs : List (Nat × Nat)}
    (h : ∀ pair ∈ pairs, pair.2 < 2 ^ index) :
    productOfPowers (shiftExponents index pairs) = 1 := by
  induction pairs with
  | nil => rfl
  | cons pair rest ih =>
      have hpair : pair.2 / 2 ^ index = 0 := Nat.div_eq_of_lt (h pair List.mem_cons_self)
      have hrest := ih fun other hmem => h other (List.mem_cons_of_mem pair hmem)
      simp only [shiftExponents, List.map_cons, productOfPowers_cons, hpair, pow_zero, one_mul]
      exact hrest

/-! ## Bit columns -/

theorem bitColumn_cons_eq (exponent : Nat) (block : List Nat) (index : Nat) :
    bitColumn (exponent :: block) index =
      2 * bitColumn block index + (exponent.testBit index).toNat := by
  have hbit : (exponent.testBit index).toNat < 2 ^ 1 := Bool.toNat_lt _
  rw [bitColumn_cons, ← Nat.shiftLeft_add_eq_or_of_lt hbit, Nat.shiftLeft_eq, pow_one, mul_comm]

theorem bitColumn_lt (block : List Nat) (index : Nat) :
    bitColumn block index < 2 ^ block.length := by
  induction block with
  | nil => simp
  | cons exponent block ih =>
      have hbit : (exponent.testBit index).toNat < 2 := Bool.toNat_lt _
      rw [bitColumn_cons_eq, List.length_cons, pow_succ]
      omega

/-- Above the lowest bit stands the column of the exponents after the first. -/
theorem bitColumn_cons_div_two (exponent : Nat) (block : List Nat) (index : Nat) :
    bitColumn (exponent :: block) index / 2 = bitColumn block index := by
  have hbit : (exponent.testBit index).toNat < 2 := Bool.toNat_lt _
  rw [bitColumn_cons_eq]
  omega

/-- The lowest bit is that of the first exponent. -/
theorem testBit_zero_bitColumn_cons (exponent : Nat) (block : List Nat) (index : Nat) :
    (bitColumn (exponent :: block) index).testBit 0 = exponent.testBit index := by
  rw [bitColumn_cons_eq, Nat.testBit_zero]
  cases exponent.testBit index <;> simp

/-- The bit column of a block selects the bases whose exponents have the bit. -/
theorem subsetProduct_bitColumn (index : Nat) (block : List (Nat × Nat)) :
    subsetProduct (block.map Prod.fst) (bitColumn (block.map Prod.snd) index) =
      productOfPowers (exponentBits index block) := by
  -- the front base goes with the lowest bit of the column
  induction block with
  | nil => rfl
  | cons pair block ih =>
      rw [List.map_cons, List.map_cons, subsetProduct_cons, bitColumn_cons_div_two,
        testBit_zero_bitColumn_cons, ih]
      simp only [exponentBits, List.map_cons, productOfPowers_cons]
      cases pair.2.testBit index <;> simp

/-! ## Blocks -/

section Blocks

variable {α β : Type}

theorem blocks_cons (width : Nat) (x : α) (rest : List α) :
    blocks width (x :: rest) =
      (x :: rest.take (width - 1)) :: blocks width (rest.drop (width - 1)) := by
  rw [blocks]

/-- Blocks are cut by position only. -/
theorem blocks_map (f : α → β) (width : Nat) (xs : List α) :
    blocks width (xs.map f) = (blocks width xs).map (List.map f) := by
  fun_induction blocks width xs with
  | case1 => simp
  | case2 x rest ih =>
      rw [List.map_cons, blocks_cons, ← List.map_take, ← List.map_drop, ih]
      rfl

theorem length_blocks {width : Nat} (hw : 0 < width) (xs : List α) :
    (blocks width xs).length = blockCount xs.length width := by
  fun_induction blocks width xs with
  | case1 =>
      have hzero : (width - 1) / width = 0 := Nat.div_eq_of_lt (by omega)
      simp [blockCount, hzero]
  | case2 x rest ih =>
      rw [List.length_cons, ih, List.length_cons, List.length_drop, blockCount, blockCount]
      have hfirst : rest.length + 1 + width - 1 = rest.length + width := by omega
      rw [hfirst, Nat.add_div_right _ hw]
      -- the first block is full, or it is the only one
      by_cases hle : width - 1 ≤ rest.length
      · have hrest : rest.length - (width - 1) + width - 1 = rest.length := by omega
        rw [hrest]
      · have hnone : rest.length - (width - 1) + width - 1 = width - 1 := by omega
        rw [hnone, Nat.div_eq_of_lt (by omega), Nat.div_eq_of_lt (by omega)]

/-- A block begins before the end of the list exactly if it is one of the blocks. -/
theorem lt_blockCount_iff {size width k : Nat} (hw : 0 < width) :
    k < blockCount size width ↔ k * width < size := by
  rw [blockCount, Nat.lt_iff_add_one_le, Nat.le_div_iff_mul_le hw, Nat.succ_mul]
  omega

/-- The block in which the list ends is the last one. -/
theorem succ_eq_blockCount {size width k : Nat} (hw : 0 < width) (hk : k * width < size)
    (hend : size ≤ (k + 1) * width) : k + 1 = blockCount size width := by
  have hthis : k < blockCount size width := (lt_blockCount_iff hw).2 hk
  have hnext : ¬ k + 1 < blockCount size width := by
    rw [lt_blockCount_iff hw]
    exact Nat.not_lt.2 hend
  omega

/-- A block is not empty and not longer than the width. -/
theorem length_of_mem_blocks {width : Nat} (hw : 0 < width) {xs block : List α}
    (h : block ∈ blocks width xs) : 1 ≤ block.length ∧ block.length ≤ width := by
  fun_induction blocks width xs with
  | case1 => exact absurd h List.not_mem_nil
  | case2 x rest ih =>
      rcases List.mem_cons.1 h with rfl | hmem
      · rw [List.length_cons, List.length_take]
        omega
      · exact ih hmem

/-- A list that is not longer than the width is one block. -/
theorem blocks_eq_singleton {width : Nat} {xs : List α} (hpos : xs ≠ [])
    (hle : xs.length ≤ width) : blocks width xs = [xs] := by
  cases xs with
  | nil => exact absurd rfl hpos
  | cons x rest =>
      have hrest : rest.length ≤ width - 1 := by
        rw [List.length_cons] at hle
        omega
      rw [blocks_cons, List.take_of_length_le hrest, List.drop_eq_nil_of_le hrest, blocks_nil]

/-- Block `k` of a list that is cut into blocks of `width` entries. -/
def blockAt (width k : Nat) (xs : List α) : List α := (xs.drop (k * width)).take width

theorem length_blockAt (width k : Nat) (xs : List α) :
    (blockAt width k xs).length = min width (xs.length - k * width) := by
  rw [blockAt, List.length_take, List.length_drop]

/-- A block ends where the next one begins, or where the list ends. -/
theorem take_drop_eq_blockAt (width k : Nat) (xs : List α) :
    (xs.drop (k * width)).take (min (k * width + width) xs.length - k * width) =
      blockAt width k xs := by
  have hsize : min (k * width + width) xs.length - k * width =
      min width (xs.drop (k * width)).length := by
    rw [List.length_drop]
    omega
  rw [hsize, ← List.take_eq_take_min, blockAt]

end Blocks

/-- A block carries the product on to the beginning of the next one. -/
theorem productOfPowers_take_succ_mul (width k : Nat) (pairs : List (Nat × Nat)) :
    productOfPowers (pairs.take ((k + 1) * width)) =
      productOfPowers (pairs.take (k * width)) * productOfPowers (blockAt width k pairs) := by
  rw [← productOfPowers_append, blockAt, ← List.take_add, Nat.succ_mul]

end PowerProduct
