import Mathlib
import PowerProduct.Proofs.Encoding
import PowerProduct.Proofs.ProductOfPowers

/-!
# Bit columns as a transposition

The exponents of a block are the rows of a matrix of bits, and the bit columns
are its columns: bit `j` of column `index` is bit `index` of exponent `j`
(`testBit_bitColumn`). A number is the sum of its bits at their places
(`sum_testBit`), so the columns up to the longest exponent give every exponent
back, and a block of supported width fits its columns into words
(`toNat_wordColumn`). The main statement is `bitColumn_transposes`.
-/

set_option autoImplicit false

namespace PowerProduct

/-- Bit `j` of a column is the bit of exponent `j`; past the block there are no
bits. -/
theorem testBit_bitColumn (block : List Nat) (index j : Nat) :
    (bitColumn block index).testBit j = (block.getD j 0).testBit index := by
  induction block generalizing j with
  | nil => simp
  | cons exponent block ih =>
      cases j with
      | zero => exact testBit_zero_bitColumn_cons exponent block index
      | succ j =>
          rw [Nat.testBit_succ, bitColumn_cons_div_two, ih]
          rfl

/-- The bits below `bits` at their places give the remainder by `2 ^ bits`. -/
theorem sum_testBit (x bits : Nat) :
    ∑ index ∈ Finset.range bits, 2 ^ index * (x.testBit index).toNat = x % 2 ^ bits := by
  induction bits with
  | zero => simp [Nat.mod_one]
  | succ bits ih => rw [Finset.sum_range_succ, ih, pow_succ, Nat.mod_mul, Nat.toNat_testBit]

/-- The columns below the bit length of an exponent hold all of it. -/
theorem exponent_eq_sum {block : List Nat} {j exponent bits : Nat}
    (hj : block[j]? = some exponent) (hbits : bitLength exponent ≤ bits) :
    exponent =
      ∑ index ∈ Finset.range bits, 2 ^ index * ((bitColumn block index).testBit j).toNat := by
  have hentry : block.getD j 0 = exponent := by
    rw [List.getD_eq_getElem?_getD, hj, Option.getD_some]
  have hlt : exponent < 2 ^ bits := (bitLength_le_iff exponent bits).1 hbits
  simp only [testBit_bitColumn, hentry]
  rw [sum_testBit, Nat.mod_eq_of_lt hlt]

/-- Blocks of one length with the same columns are the same, if the columns
reach to the longest exponent of both. -/
theorem eq_of_bitColumn_eq {block other : List Nat} {bits : Nat}
    (hlen : other.length = block.length) (hblock : ∀ exponent ∈ block, bitLength exponent ≤ bits)
    (hother : ∀ exponent ∈ other, bitLength exponent ≤ bits)
    (h : ∀ index < bits, bitColumn other index = bitColumn block index) : other = block := by
  apply List.ext_getElem hlen
  intro j hj hj'
  calc other[j]
      = ∑ index ∈ Finset.range bits, 2 ^ index * ((bitColumn other index).testBit j).toNat :=
        exponent_eq_sum (List.getElem?_eq_getElem hj) (hother _ (List.getElem_mem hj))
    _ = ∑ index ∈ Finset.range bits, 2 ^ index * ((bitColumn block index).testBit j).toNat := by
        refine Finset.sum_congr rfl fun index hmem => ?_
        rw [h index (Finset.mem_range.1 hmem)]
    _ = block[j] :=
        (exponent_eq_sum (List.getElem?_eq_getElem hj') (hblock _ (List.getElem_mem hj'))).symm

/-- The bit column put together in a 64-bit word. -/
def wordColumn (block : List Nat) (index : Nat) : UInt64 :=
  block.foldr (fun exponent mask => (mask <<< 1) ||| (exponent.testBit index).toUInt64) 0

/-- A block of at most 64 exponents loses no bit in a word. -/
theorem toNat_wordColumn {block : List Nat} (h : block.length ≤ 64) (index : Nat) :
    (wordColumn block index).toNat = bitColumn block index := by
  induction block with
  | nil => rfl
  | cons exponent block ih =>
      rw [List.length_cons] at h
      have hrest := ih (Nat.le_of_succ_le h)
      -- the column of the others leaves the highest bit free for the shift
      have hfree : bitColumn block index <<< 1 < 2 ^ 64 := by
        have hlt := bitColumn_lt block index
        have hpow : 2 ^ (block.length + 1) ≤ 2 ^ 64 := Nat.pow_le_pow_right (by decide) h
        rw [pow_succ] at hpow
        rw [Nat.shiftLeft_eq]
        omega
      have hbit : ((exponent.testBit index).toUInt64).toNat = (exponent.testBit index).toNat := by
        cases exponent.testBit index <;> rfl
      have hshift : (wordColumn block index <<< 1).toNat = bitColumn block index <<< 1 := by
        rw [UInt64.toNat_shiftLeft, hrest]
        exact Nat.mod_eq_of_lt hfree
      show (wordColumn block index <<< 1 ||| (exponent.testBit index).toUInt64).toNat = _
      rw [UInt64.toNat_or, hshift, hbit, bitColumn_cons]

/-- The bit columns of a block of supported width transpose its bits. A column
has one bit for each exponent and fits a word; its bit `j` is the bit of
exponent `j`. Any number of columns that reaches to the longest exponent gives
every exponent as the sum of its bits at their places, and no other block of
that length has the same columns. -/
theorem bitColumn_transposes {block : List Nat} (hwidth : block.length ≤ Window.maxWidth) :
    (∀ index,
      bitColumn block index < 2 ^ block.length ∧
      (wordColumn block index).toNat = bitColumn block index ∧
      ∀ j, (bitColumn block index).testBit j = (block.getD j 0).testBit index) ∧
    ∀ bits, (∀ exponent ∈ block, bitLength exponent ≤ bits) →
      (∀ j exponent, block[j]? = some exponent →
        exponent =
          ∑ index ∈ Finset.range bits, 2 ^ index * ((bitColumn block index).testBit j).toNat) ∧
      ∀ other : List Nat, other.length = block.length →
        (∀ exponent ∈ other, bitLength exponent ≤ bits) →
        (∀ index < bits, bitColumn other index = bitColumn block index) → other = block := by
  have hword : block.length ≤ 64 := Nat.le_trans hwidth (by decide)
  refine ⟨?_, ?_⟩
  · intro index
    exact ⟨bitColumn_lt block index, toNat_wordColumn hword index, testBit_bitColumn block index⟩
  · intro bits hbits
    refine ⟨?_, ?_⟩
    · intro j exponent hj
      exact exponent_eq_sum hj (hbits _ (List.mem_of_getElem? hj))
    · intro other hlen hother hsame
      exact eq_of_bitColumn_eq hlen hbits hother hsame

/-- Three exponents of three, one and no bits. The last of their columns has the
bit of the first exponent alone, the columns give six back, and they are not
those of the block with the first two exponents exchanged. -/
theorem bitColumn_transposes_three_exponents :
    [6, 1, 0].length ≤ Window.maxWidth ∧ (∀ exponent ∈ [6, 1, 0], bitLength exponent ≤ 3) ∧
      [6, 1, 0][0]? = some 6 ∧
      bitColumn [6, 1, 0] 2 = 1 ∧ (bitColumn [6, 1, 0] 2).testBit 0 = Nat.testBit 6 2 ∧
      6 = ∑ index ∈ Finset.range 3, 2 ^ index * ((bitColumn [6, 1, 0] index).testBit 0).toNat ∧
      ¬ ∀ index < 3, bitColumn [1, 6, 0] index = bitColumn [6, 1, 0] index := by
  have hwidth : [6, 1, 0].length ≤ Window.maxWidth := by decide
  have hbits : ∀ exponent ∈ [6, 1, 0], bitLength exponent ≤ 3 := by decide
  obtain ⟨hcolumns, hrows⟩ := bitColumn_transposes hwidth
  obtain ⟨hsums, hunique⟩ := hrows 3 hbits
  refine ⟨hwidth, hbits, rfl, by decide, (hcolumns 2).2.2 0, hsums 0 6 rfl, ?_⟩
  intro hsame
  have hexchanged := hunique [1, 6, 0] rfl (by decide) hsame
  exact absurd hexchanged (by decide)

end PowerProduct
