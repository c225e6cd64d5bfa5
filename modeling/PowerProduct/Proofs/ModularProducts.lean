import Mathlib
import PowerProduct.Proofs.ProductOfPowers
import PowerProduct.Theory.Power

/-!
# Products without tables

The evaluations that keep one accumulator and reduce it after every factor. A
reduced accumulator stays the remainder of the product so far
(`foldlM_eq_ok_of_step`), so one power after another gives the product of
powers (`powerProduct_eq_ok`), and so do all powers first and their product
afterwards (`powers_eq_ok`, `productAll_eq_ok`).
-/

set_option autoImplicit false

namespace PowerProduct

theorem requirePairs_map {pairs : List (Nat × Nat)} (hpairs : pairs ≠ []) :
    requirePairs (pairs.map Prod.fst).length (pairs.map Prod.snd).length = .ok () := by
  apply requirePairs_of_ne_nil
  · simpa using hpairs
  · rw [List.length_map, List.length_map]

theorem zip_map_fst_snd (pairs : List (Nat × Nat)) :
    (pairs.map Prod.fst).zip (pairs.map Prod.snd) = pairs := by
  rw [List.zip_map']
  exact List.map_id pairs

namespace Modular

/-- If each step multiplies a reduced accumulator by a factor and reduces it
again, the fold multiplies it by all factors. -/
theorem foldlM_eq_ok_of_step {α : Type} {modulus : Nat} {step : Nat → α → Outcome Nat}
    (factor : α → Nat)
    (hstep : ∀ a x, step (a % modulus) x = .ok (a * factor x % modulus)) (xs : List α) (a : Nat) :
    xs.foldlM step (a % modulus) = .ok (a * (xs.map factor).prod % modulus) := by
  induction xs generalizing a with
  | nil => simp [pure, Except.pure]
  | cons x rest ih =>
      rw [List.foldlM_cons, hstep, ok_bind, ih, List.map_cons, List.prod_cons, mul_assoc]

section Lists

variable {modulus : Nat} (hm : 0 < modulus)
include hm

theorem productAll_eq_ok {values : List Nat} (hvalues : values ≠ []) :
    productAll values modulus = .ok (values.prod % modulus) := by
  have hempty : ¬ values.isEmpty = true := by simpa using hvalues
  have hstep : ∀ a value, reduce (a % modulus * value) modulus =
      .ok (a * id value % modulus) := by
    intro a value
    rw [reduce_of_pos hm, Nat.mod_mul_mod, id_eq]
  have hfold : values.foldlM (fun acc value => reduce (acc * value) modulus) (1 % modulus) =
      .ok (1 * (values.map id).prod % modulus) :=
    foldlM_eq_ok_of_step id hstep values 1
  rw [List.map_id, one_mul] at hfold
  rw [productAll, if_neg hempty, requireModulus_of_pos hm, ok_bind, reduce_of_pos hm, ok_bind]
  exact hfold

/-- Every pair has its power, in order. -/
theorem powers_eq_ok {pairs : List (Nat × Nat)} (hpairs : pairs ≠ []) :
    powers (pairs.map Prod.fst) (pairs.map Prod.snd) modulus =
      .ok (pairs.map fun pair => pair.1 ^ pair.2 % modulus) := by
  have hpower : ∀ pair ∈ pairs, power pair.1 pair.2 modulus = .ok (pair.1 ^ pair.2 % modulus) :=
    fun pair _ => power_eq_ok hm
  rw [powers, requirePairs_map hpairs, ok_bind, requireModulus_of_pos hm, ok_bind,
    zip_map_fst_snd]
  exact mapM_eq_ok hpower

theorem powerProduct_eq_ok {pairs : List (Nat × Nat)} (hpairs : pairs ≠ []) :
    powerProduct (pairs.map Prod.fst) (pairs.map Prod.snd) modulus =
      .ok (productOfPowers pairs % modulus) := by
  have hstep : ∀ (a : Nat) (pair : Nat × Nat),
      (do reduce (a % modulus * (← power pair.1 pair.2 modulus)) modulus) =
        .ok (a * pair.1 ^ pair.2 % modulus) := by
    intro a pair
    rw [power_eq_ok hm, ok_bind, reduce_of_pos hm, ← Nat.mul_mod]
  have hfold : pairs.foldlM
        (fun acc pair => do reduce (acc * (← power pair.1 pair.2 modulus)) modulus)
        (1 % modulus) = .ok (1 * productOfPowers pairs % modulus) :=
    foldlM_eq_ok_of_step (fun pair : Nat × Nat => pair.1 ^ pair.2) hstep pairs 1
  rw [one_mul] at hfold
  rw [powerProduct, requirePairs_map hpairs, ok_bind, requireModulus_of_pos hm, ok_bind,
    reduce_of_pos hm, ok_bind, zip_map_fst_snd]
  exact hfold

end Lists

end Modular

end PowerProduct
