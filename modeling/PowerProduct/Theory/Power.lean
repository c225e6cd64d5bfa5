import Mathlib
import PowerProduct.Modular

/-!
# Powers by repeated squaring

`squareAndMultiply` halves the exponent and squares the base. The main
statement is that its result is the remainder of the power itself.
-/

set_option autoImplicit false

namespace PowerProduct.Modular

/-- Repeated squaring computes the power. -/
theorem squareAndMultiply_eq (base exponent modulus : Nat) :
    squareAndMultiply base exponent modulus = base ^ exponent % modulus := by
  fun_induction squareAndMultiply base exponent modulus with
  | case1 => simp
  | case2 base exponent _ half hodd ih =>
      have hexp : exponent = 2 * (exponent / 2) + 1 := by omega
      have hpow : base ^ exponent = base * (base * base) ^ (exponent / 2) := by
        conv => lhs; rw [hexp]
        rw [Nat.pow_succ, Nat.pow_mul, Nat.pow_two, Nat.mul_comm]
      rw [hpow, show half = _ from ih, Nat.mul_mod, Nat.mod_mod, ← Nat.pow_mod, ← Nat.mul_mod]
  | case3 base exponent _ half heven ih =>
      have hexp : exponent = 2 * (exponent / 2) := by omega
      have hpow : base ^ exponent = (base * base) ^ (exponent / 2) := by
        conv => lhs; rw [hexp]
        rw [Nat.pow_mul, Nat.pow_two]
      rw [hpow, show half = _ from ih, ← Nat.pow_mod]

theorem power_eq_ok {base exponent modulus : Nat} (h : 0 < modulus) :
    power base exponent modulus = .ok (base ^ exponent % modulus) := by
  rw [power_of_pos h, squareAndMultiply_eq, ← Nat.pow_mod]

end PowerProduct.Modular
