import Mathlib
import PowerProduct.Proofs.Encoding
import PowerProduct.Word

/-!
# The ceiling of the binary logarithm

A word is at most `2 ^ k` exactly if the bits of its predecessor fit in `k`
places. `ceilLog2` counts those bits, so it is the ceiling of the logarithm for
every word but zero (`ceilLog2_eq_clog`). `powerOfTwo` is the power itself as
long as the exponent is a position of the word (`toNat_powerOfTwo`).

Together they say how the two operations fit: a logarithm is at most a position
exactly if the word is at most the power there, and only the words of the upper
half, which no power reaches, have the logarithm 64
(`ceilLog2_matches_powerOfTwo`).
-/

set_option autoImplicit false

namespace PowerProduct.Word

/-- The bits of the predecessor are counted by the ceiling of the logarithm. -/
theorem bitLength_pred_eq_clog {n : Nat} (hn : 0 < n) : bitLength (n - 1) = Nat.clog 2 n := by
  -- both are the least `k` with `n ≤ 2 ^ k`
  have hsame : ∀ k, bitLength (n - 1) ≤ k ↔ Nat.clog 2 n ≤ k := by
    intro k
    rw [bitLength_le_iff, Nat.clog_le_iff_le_pow (by decide)]
    omega
  apply Nat.le_antisymm
  · exact (hsame _).2 (Nat.le_refl _)
  · exact (hsame _).1 (Nat.le_refl _)

theorem toNat_pos_of_ne_zero {word : UInt64} (h : word ≠ 0) : 0 < word.toNat := by
  apply Nat.pos_of_ne_zero
  intro hzero
  exact h (UInt64.toNat_inj.1 hzero)

/-- The predecessor of a word that is not zero does not wrap around. -/
theorem toNat_pred {word : UInt64} (h : word ≠ 0) : (word - 1).toNat = word.toNat - 1 := by
  have hone : (1 : UInt64) ≤ word := by
    rw [UInt64.le_iff_toNat_le]
    exact toNat_pos_of_ne_zero h
  rw [UInt64.toNat_sub_of_le _ _ hone]
  rfl

theorem bitLength_toNat_le (word : UInt64) : bitLength word.toNat ≤ 64 := by
  rw [bitLength_le_iff]
  exact word.toNat_lt

/-- On every word but zero `ceilLog2` is the ceiling of the logarithm. -/
theorem ceilLog2_eq_clog {word : UInt64} (h : word ≠ 0) :
    ceilLog2 word = .ok (Nat.clog 2 word.toNat) := by
  have hbits := bitLength_toNat_le (word - 1)
  rw [ceilLog2, if_neg h, leadingZeros, Nat.sub_sub_self hbits, toNat_pred h,
    bitLength_pred_eq_clog (toNat_pos_of_ne_zero h)]

/-- A power of two below `2 ^ 64` is a word. -/
theorem toNat_powerOfTwo {exponent : UInt64} (h : exponent.toNat < 64) :
    (powerOfTwo exponent).toNat = 2 ^ exponent.toNat := by
  have hpow : 2 ^ exponent.toNat < 2 ^ 64 := Nat.pow_lt_pow_right (by decide) h
  rw [powerOfTwo, UInt64.toNat_shiftLeft, Nat.mod_eq_of_lt h, UInt64.toNat_one, Nat.one_shiftLeft,
    Nat.mod_eq_of_lt hpow]

/-! ## The logarithm and the powers -/

/-- The ceiling of the logarithm is at most a position of the word exactly if the
word is at most the power of two there. -/
theorem clog_le_iff_le_powerOfTwo {word exponent : UInt64} (h : exponent.toNat < 64) :
    Nat.clog 2 word.toNat ≤ exponent.toNat ↔ word ≤ powerOfTwo exponent := by
  rw [UInt64.le_iff_toNat_le, toNat_powerOfTwo h]
  exact Nat.clog_le_iff_le_pow (by decide)

theorem powerOfTwo_ne_zero {exponent : UInt64} (h : exponent.toNat < 64) :
    powerOfTwo exponent ≠ 0 := by
  intro hzero
  have hpow : 2 ^ exponent.toNat = 0 := by
    rw [← toNat_powerOfTwo h, hzero]
    rfl
  exact absurd hpow (Nat.two_pow_pos _).ne'

/-- `ceilLog2` takes a power of two back to its exponent. -/
theorem ceilLog2_powerOfTwo {exponent : UInt64} (h : exponent.toNat < 64) :
    ceilLog2 (powerOfTwo exponent) = .ok exponent.toNat := by
  rw [ceilLog2_eq_clog (powerOfTwo_ne_zero h), toNat_powerOfTwo h, Nat.clog_pow 2 _ (by decide)]

theorem clog_toNat_le (word : UInt64) : Nat.clog 2 word.toNat ≤ 64 :=
  Nat.clog_le_of_le_pow word.toNat_lt.le

/-- The words above the highest power of two are those with the logarithm 64. -/
theorem clog_toNat_eq_iff (word : UInt64) :
    Nat.clog 2 word.toNat = 64 ↔ 2 ^ 63 < word.toNat := by
  have hle := clog_toNat_le word
  have hbelow : Nat.clog 2 word.toNat ≤ 63 ↔ word.toNat ≤ 2 ^ 63 :=
    Nat.clog_le_iff_le_pow (by decide)
  omega

/-- Every word but zero has a logarithm, and its predecessor does not wrap
around. The logarithm is at most a position exactly if the word is at most the
power of two there. As numbers, the word is at most two to the logarithm, and
from 2 on it is above the power before that one. The logarithm is at most 64, and
64 exactly above `2 ^ 63`. The power of two at a position is the number, and the
position is its logarithm. -/
theorem ceilLog2_matches_powerOfTwo :
    (∀ word : UInt64, word ≠ 0 →
      (word - 1).toNat + 1 = word.toNat ∧
      ∃ log, ceilLog2 word = .ok log ∧
        (∀ exponent : UInt64, exponent < 64 →
          (log ≤ exponent.toNat ↔ word ≤ powerOfTwo exponent)) ∧
        word.toNat ≤ 2 ^ log ∧
        (2 ≤ word → 2 ^ (log - 1) < word.toNat) ∧
        log ≤ 64 ∧ (log = 64 ↔ 2 ^ 63 < word.toNat)) ∧
    ∀ exponent : UInt64, exponent < 64 →
      (powerOfTwo exponent).toNat = 2 ^ exponent.toNat ∧
      ceilLog2 (powerOfTwo exponent) = .ok exponent.toNat := by
  constructor
  · intro word hword
    refine ⟨?_, Nat.clog 2 word.toNat, ceilLog2_eq_clog hword, ?_, ?_, ?_, ?_⟩
    · rw [toNat_pred hword]
      exact Nat.sub_add_cancel (toNat_pos_of_ne_zero hword)
    · intro exponent hexponent
      exact clog_le_iff_le_powerOfTwo (UInt64.lt_iff_toNat_lt.1 hexponent)
    · exact Nat.le_pow_clog (by decide) _
    · intro htwo
      exact Nat.pow_pred_clog_lt_self (by decide) (UInt64.le_iff_toNat_le.1 htwo)
    · exact ⟨clog_toNat_le word, clog_toNat_eq_iff word⟩
  · intro exponent hexponent
    have hposition : exponent.toNat < 64 := UInt64.lt_iff_toNat_lt.1 hexponent
    exact ⟨toNat_powerOfTwo hposition, ceilLog2_powerOfTwo hposition⟩

/-- The word after the highest power of two is no longer below any power, so its
logarithm is one more than that of the power. -/
theorem ceilLog2_matches_powerOfTwo_upper_half :
    (0x8000000000000001 : UInt64) ≠ 0 ∧ (63 : UInt64) < 64 ∧
      (2 : UInt64) ≤ 0x8000000000000001 ∧
      ceilLog2 0x8000000000000001 = .ok 64 ∧
      ¬ (0x8000000000000001 : UInt64) ≤ powerOfTwo 63 ∧
      2 ^ 63 < (0x8000000000000001 : UInt64).toNat ∧
      ceilLog2 (powerOfTwo 63) = .ok 63 := by
  have hword : (0x8000000000000001 : UInt64) ≠ 0 := by decide
  have hposition : (63 : UInt64) < 64 := by decide
  have htwo : (2 : UInt64) ≤ 0x8000000000000001 := by decide
  obtain ⟨hwords, hpowers⟩ := ceilLog2_matches_powerOfTwo
  obtain ⟨-, log, hlog, hle, -, habove, -, htop⟩ := hwords _ hword
  have hsize : log = 64 := htop.2 (by decide)
  subst hsize
  refine ⟨hword, hposition, htwo, hlog, ?_, habove htwo, (hpowers 63 hposition).2⟩
  rw [← hle 63 hposition]
  decide

end PowerProduct.Word
