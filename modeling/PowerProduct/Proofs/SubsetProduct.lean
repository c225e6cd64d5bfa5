import Mathlib
import PowerProduct.SubsetTable

/-!
# Products of subsets

`subsetProduct bases mask` multiplies the bases that a mask selects, one for
each bit that is set (`subsetProduct_eq_prod`). Taking one selected base out of
a mask takes one factor out of the product
(`subsetProduct_clear`), and the lowest bit of a mask is a bit of the mask
(`lowestBit_eq_two_pow`). Together they give the recurrence by which a table is
filled. A mask below `2 ^ width` selects among the first `width` bases only
(`subsetProduct_take`).
-/

set_option autoImplicit false

namespace PowerProduct

/-- The product of the bases that `mask` selects: bit `j` selects base `j`. -/
def subsetProduct : List Nat → Nat → Nat
  | [], _ => 1
  | base :: rest, mask => (if mask.testBit 0 then base else 1) * subsetProduct rest (mask / 2)

@[simp] theorem subsetProduct_nil (mask : Nat) : subsetProduct [] mask = 1 := rfl

theorem subsetProduct_cons (base : Nat) (rest : List Nat) (mask : Nat) :
    subsetProduct (base :: rest) mask =
      (if mask.testBit 0 then base else 1) * subsetProduct rest (mask / 2) := rfl

/-- The empty subset has the empty product. -/
@[simp] theorem subsetProduct_zero (bases : List Nat) : subsetProduct bases 0 = 1 := by
  induction bases with
  | nil => rfl
  | cons base rest ih => simp [subsetProduct_cons, ih]

/-- The product of a subset has one factor for each bit that is set. -/
theorem subsetProduct_eq_prod (bases : List Nat) (mask : Nat) :
    subsetProduct bases mask = ∏ j : Fin bases.length with mask.testBit j.val, bases[j] := by
  rw [Finset.prod_filter]
  induction bases generalizing mask with
  | nil => rfl
  | cons base rest ih =>
      -- the front base goes with bit zero, and the others with the bits of half the mask
      rw [subsetProduct_cons, ih (mask / 2)]
      refine Eq.trans ?_ (Fin.prod_univ_succ _).symm
      simp only [Fin.val_zero, Fin.val_succ, Nat.testBit_succ]
      rfl

/-- A selected base is one factor of the product, and the others remain. -/
theorem subsetProduct_clear {bases : List Nat} {mask i : Nat} (hi : i < bases.length)
    (hbit : mask.testBit i = true) :
    subsetProduct bases mask = subsetProduct bases (mask ^^^ 2 ^ i) * bases[i] := by
  induction bases generalizing mask i with
  | nil => exact absurd hi (Nat.not_lt_zero i)
  | cons base rest ih =>
      cases i with
      | zero =>
          -- the base at the front is selected: the rest of the mask is the same
          have hhalf : (mask ^^^ 1) / 2 = mask / 2 := by simp [Nat.xor_div_two]
          have hlow : (mask ^^^ 1).testBit 0 = false := by
            rw [Nat.testBit_xor, hbit]
            rfl
          rw [pow_zero, subsetProduct_cons, subsetProduct_cons, hhalf, hlow, hbit]
          simp [mul_comm]
      | succ i =>
          -- a base of the rest is selected: the front bit is the same
          have hhalf : (mask ^^^ 2 ^ (i + 1)) / 2 = mask / 2 ^^^ 2 ^ i := by
            rw [Nat.xor_div_two, pow_succ, Nat.mul_div_cancel _ (by decide)]
          have hlow : (mask ^^^ 2 ^ (i + 1)).testBit 0 = mask.testBit 0 := by
            rw [Nat.testBit_xor, Nat.testBit_two_pow]
            exact Bool.xor_false _
          have hi' : i < rest.length := by simpa using hi
          have hbit' : (mask / 2).testBit i = true := by
            rw [← Nat.testBit_succ]
            exact hbit
          have hrest := ih hi' hbit'
          rw [subsetProduct_cons, subsetProduct_cons, hhalf, hlow, hrest, mul_assoc]
          rfl

/-- The subset of one base has that base as its product. -/
theorem subsetProduct_two_pow {bases : List Nat} {i : Nat} (hi : i < bases.length) :
    subsetProduct bases (2 ^ i) = bases[i] := by
  rw [subsetProduct_clear hi Nat.testBit_two_pow_self]
  simp

/-- A mask without bits at or above `width` selects among the first `width`
bases. -/
theorem subsetProduct_take {bases : List Nat} {width mask : Nat} (hmask : mask < 2 ^ width) :
    subsetProduct (bases.take width) mask = subsetProduct bases mask := by
  induction bases generalizing width mask with
  | nil => simp
  | cons base rest ih =>
      cases width with
      | zero =>
          have hzero : mask = 0 := by simpa using hmask
          subst hzero
          simp
      | succ width =>
          have hhalf : mask / 2 < 2 ^ width := by
            rw [pow_succ] at hmask
            omega
          rw [List.take_succ_cons, subsetProduct_cons, subsetProduct_cons, ih hhalf]

/-! ## The lowest bit -/

/-- The position of a bit of a number below `2 ^ width` is below `width`. -/
theorem lt_of_testBit_of_lt_two_pow {mask width i : Nat} (hmask : mask < 2 ^ width)
    (hbit : mask.testBit i = true) : i < width := by
  by_contra hle
  have hpow : (2 : Nat) ^ width ≤ 2 ^ i := Nat.pow_le_pow_right (by decide) (Nat.not_lt.1 hle)
  have hclear : mask.testBit i = false := Nat.testBit_lt_two_pow (Nat.lt_of_lt_of_le hmask hpow)
  rw [hclear] at hbit
  exact Bool.noConfusion hbit

/-- Clearing a bit makes a number smaller. -/
theorem xor_two_pow_lt {mask i : Nat} (hbit : mask.testBit i = true) : mask ^^^ 2 ^ i < mask := by
  have hclear : (mask ^^^ 2 ^ i).testBit i = false := by
    rw [Nat.testBit_xor, hbit, Nat.testBit_two_pow_self]
    rfl
  -- the bits above are the same
  apply Nat.lt_of_testBit i hclear hbit
  intro j hj
  simp [Nat.testBit_xor, hj.ne]

namespace SubsetTable

theorem testBit_lowestBit {mask i : Nat} (hmask : mask < 2 ^ 64) :
    (lowestBit mask).testBit i =
      (mask.testBit i && !decide (∃ j < i, mask.testBit j = true)) := by
  have hbit : ∀ j, (BitVec.ofNat 64 mask).getLsbD j = mask.testBit j := by
    intro j
    rw [← BitVec.testBit_toNat, BitVec.toNat_ofNat, Nat.mod_eq_of_lt hmask]
  have hword : lowestBit mask = (BitVec.ofNat 64 mask &&& -BitVec.ofNat 64 mask).toNat := rfl
  rw [hword, BitVec.testBit_toNat, BitVec.getLsbD_and, BitVec.getLsbD_neg]
  simp only [hbit]
  cases hi : mask.testBit i with
  | false => rfl
  | true => simp [lt_of_testBit_of_lt_two_pow hmask hi]

/-- The lowest bit of a positive word is the power of two at the first
position with a bit. -/
theorem lowestBit_eq_two_pow {mask : Nat} (hpos : mask ≠ 0) (hmask : mask < 2 ^ 64) :
    ∃ i, lowestBit mask = 2 ^ i ∧ mask.testBit i = true ∧ ∀ j < i, mask.testBit j = false := by
  classical
  have hex : ∃ i, mask.testBit i = true := Nat.exists_testBit_of_ne_zero hpos
  have hlow : ∀ j < Nat.find hex, mask.testBit j = false := by
    intro j hj
    simpa using Nat.find_min hex hj
  refine ⟨Nat.find hex, Nat.eq_of_testBit_eq fun i => ?_, Nat.find_spec hex, hlow⟩
  rw [testBit_lowestBit hmask, Nat.testBit_two_pow]
  -- below the first bit, at it, and above it
  rcases Nat.lt_trichotomy i (Nat.find hex) with hlt | heq | hgt
  · simp [hlow i hlt, hlt.ne']
  · subst heq
    simpa [Nat.find_spec hex] using hlow
  · have hbelow : ∃ j < i, mask.testBit j = true := ⟨_, hgt, Nat.find_spec hex⟩
    simp [hbelow, hgt.ne]

end SubsetTable

end PowerProduct
