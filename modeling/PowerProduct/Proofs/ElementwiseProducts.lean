import Mathlib
import PowerProduct.Proofs.BufferRequests

/-!
# All powers first, then their product

The elementwise operations write every power into a buffer and read it back for
the product. The powers are refused for the same reasons as the windowed
evaluation (`powers_of_refusal`), and otherwise they are buffers as wide as the
modulus (`powers_of_wellShaped`), which the product accepts. The product of the
reduced factors is the reduced product, so the two operations in a row answer as
the windowed evaluation does (`productAll_powers`). `ValuesRefusal` lists the
reasons for which a product of many values is refused; a product of two has the
modulus as its only condition.
-/

set_option autoImplicit false

namespace PowerProduct.Encoded

open Buffer

variable {bases exponents : List Buffer} {modulus : Buffer}

/-! ## The powers -/

theorem powers_eq_bind (bases exponents : List Buffer) (modulus : Buffer) :
    powers bases exponents modulus = (do
      requireArrays bases exponents modulus
      let results ← Modular.powers (bases.map value) (exponents.map value) modulus.value
      results.mapM fun result => encode result modulus.length) := by
  simp only [powers, decodeModulus_eq, requireArrays, bind_assoc, pure_bind]
  rfl

theorem powers_of_refusal {e : Error} (h : Refusal bases exponents modulus e) :
    powers bases exponents modulus = refuse e := by
  rw [powers_eq_bind, requireArrays_of_refusal h, refuse_bind]

/-- The power of a pair by the modulus, as wide as the modulus. -/
def encodedPower (modulus : Buffer) (pair : Nat × Nat) : Buffer :=
  padTo modulus.length (ofNat (pair.1 ^ pair.2 % modulus.value))

theorem powers_of_wellShaped (h : WellShaped bases exponents) (hm : 0 < modulus.value) :
    powers bases exponents modulus =
      .ok ((numberPairs bases exponents).map (encodedPower modulus)) := by
  have hlen : (bases.map value).length = (exponents.map value).length := by
    rw [List.length_map, List.length_map, h.length_eq]
  have hpowers := Modular.powers_eq_ok hm (numberPairs_ne_nil h.nonempty h.length_eq)
  rw [numberPairs, List.map_fst_zip hlen.le, List.map_snd_zip hlen.ge, ← numberPairs] at hpowers
  have hencode : ∀ result ∈ (numberPairs bases exponents).map
      (fun pair => pair.1 ^ pair.2 % modulus.value),
      encode result modulus.length = .ok (padTo modulus.length (ofNat result)) := by
    intro result hmem
    obtain ⟨pair, -, rfl⟩ := List.mem_map.1 hmem
    exact encode_mod_value hm _
  rw [powers_eq_bind, requireArrays_of_wellShaped h, requireModulus_of_pos hm, ok_bind, hpowers,
    ok_bind, mapM_eq_ok hencode, List.map_map]
  rfl

/-! ## The product of two values -/

theorem product_of_zero (a b : Buffer) (hzero : modulus.value = 0) :
    product a b modulus = refuse .zeroModulus := by
  rw [product, decodeModulus_eq, requireModulus, if_pos hzero, refuse_bind, refuse_bind]

theorem product_of_pos (a b : Buffer) (hm : 0 < modulus.value) :
    product a b modulus =
      .ok (padTo modulus.length (ofNat (a.value * b.value % modulus.value))) := by
  rw [product, decodeModulus_of_pos hm, ok_bind, Modular.product, requireModulus_of_pos hm,
    ok_bind, Modular.reduce_of_pos hm, ok_bind]
  exact encode_mod_value hm _

/-! ## The product of many values -/

/-- Why a list of values is refused. Each reason stands after the absence of
those before it. -/
inductive ValuesRefusal (values : List Buffer) (modulus : Buffer) : Error → Prop where
  | noValues (hnil : values = []) : ValuesRefusal values modulus .noPairs
  | raggedValues {index expected actual : Nat}
      (hragged : FirstRagged values index expected actual) :
      ValuesRefusal values modulus (.raggedWidth "values" index expected actual)
  | zeroModulus (hne : values ≠ []) (huniform : Uniform values)
      (hzero : ∀ byte ∈ modulus, byte = 0) : ValuesRefusal values modulus .zeroModulus

theorem productAll_of_refusal {values : List Buffer} {e : Error}
    (h : ValuesRefusal values modulus e) : productAll values modulus = refuse e := by
  cases h with
  | noValues hnil =>
      subst hnil
      rfl
  | raggedValues hragged =>
      have hempty : ¬ values.isEmpty = true := by
        intro hnil
        have hfront := hragged.front
        rw [List.isEmpty_iff.1 hnil] at hfront
        cases hfront
      rw [productAll, if_neg hempty, commonWidth_of_firstRagged hragged, refuse_bind]
  | zeroModulus hne huniform hzero =>
      obtain ⟨width, hwidth⟩ := commonWidth_of_uniform huniform "values"
      have hempty : ¬ values.isEmpty = true := by simpa using hne
      rw [productAll, if_neg hempty, hwidth, ok_bind, decodeModulus_eq, requireModulus,
        if_pos ((value_eq_zero_iff modulus).2 hzero), refuse_bind, refuse_bind]

/-- Values without a reason to be refused have one width, under a positive
modulus. -/
theorem valuesRefusal_or_uniform (values : List Buffer) (modulus : Buffer) :
    (∃ e, ValuesRefusal values modulus e) ∨
      (values ≠ [] ∧ Uniform values ∧ 0 < modulus.value) := by
  by_cases hne : values = []
  · exact Or.inl ⟨_, .noValues hne⟩
  rcases uniform_or_firstRagged values with huniform | ⟨index, expected, actual, hragged⟩
  case inr => exact Or.inl ⟨_, .raggedValues hragged⟩
  rcases Nat.eq_zero_or_pos modulus.value with hzero | hm
  · exact Or.inl ⟨_, .zeroModulus hne huniform ((value_eq_zero_iff modulus).1 hzero)⟩
  · exact Or.inr ⟨hne, huniform, hm⟩

/-- The product accepts buffers of one width, under a positive modulus. -/
theorem productAll_of_uniform {values : List Buffer} (hne : values ≠ []) (h : Uniform values)
    (hm : 0 < modulus.value) :
    productAll values modulus =
      .ok (padTo modulus.length (ofNat ((values.map value).prod % modulus.value))) := by
  obtain ⟨width, hwidth⟩ := commonWidth_of_uniform h "values"
  have hempty : ¬ values.isEmpty = true := by simpa using hne
  have hnumbers : values.map value ≠ [] := by simpa using hne
  rw [productAll, if_neg hempty, hwidth, ok_bind, decodeModulus_of_pos hm, ok_bind, decodeAll_eq,
    Modular.productAll_eq_ok hm hnumbers, ok_bind, encode_mod_value hm]

/-- Powers are reduced before they are multiplied, which the product does not
see. -/
theorem prod_encodedPower (modulus : Buffer) (pairs : List (Nat × Nat)) :
    ((pairs.map (encodedPower modulus)).map value).prod % modulus.value =
      productOfPowers pairs % modulus.value := by
  have hvalues : (pairs.map (encodedPower modulus)).map value =
      (pairs.map fun pair => pair.1 ^ pair.2).map (· % modulus.value) := by
    rw [List.map_map, List.map_map]
    apply List.map_congr_left
    intro pair _
    simp [encodedPower]
  rw [hvalues, ← List.prod_nat_mod, productOfPowers]

theorem length_encodedPower (hm : 0 < modulus.value) (pair : Nat × Nat) :
    (encodedPower modulus pair).length = modulus.length :=
  length_padTo_mod_value hm _

/-- The powers of buffers in order are accepted by the product, which is the
product of powers. -/
theorem productAll_encodedPower {pairs : List (Nat × Nat)} (hne : pairs ≠ [])
    (hm : 0 < modulus.value) :
    productAll (pairs.map (encodedPower modulus)) modulus =
      .ok (padTo modulus.length (ofNat (productOfPowers pairs % modulus.value))) := by
  have hnonempty : pairs.map (encodedPower modulus) ≠ [] := by simpa using hne
  have huniform : Uniform (pairs.map (encodedPower modulus)) := by
    apply Uniform.of_length
    intro factor hmem
    obtain ⟨pair, -, rfl⟩ := List.mem_map.1 hmem
    exact length_encodedPower hm pair
  rw [productAll_of_uniform hnonempty huniform hm, prod_encodedPower]

/-- The powers and then their product answer as the windowed evaluation under
any configuration whose window width is supported. The powers of a request are
one or more buffers as wide as the modulus, and the product accepts them. -/
theorem productAll_powers (bases exponents : List Buffer) (modulus : Buffer) :
    (∀ config : Config, 1 ≤ config.windowWidth → config.windowWidth ≤ Window.maxWidth →
      (do productAll (← powers bases exponents modulus) modulus) =
        powerProductWith config bases exponents modulus) ∧
    ∀ factors, powers bases exponents modulus = .ok factors →
      factors ≠ [] ∧ (∀ factor ∈ factors, factor.length = modulus.length) ∧
        ∃ out, productAll factors modulus = .ok out := by
  rcases refusal_or_wellShaped bases exponents modulus with ⟨e, hrefusal⟩ | ⟨hshape, hm⟩
  · rw [powers_of_refusal hrefusal]
    constructor
    · intro config _ _
      rw [refuse_bind, powerProductWith_of_refusal hrefusal]
    · rintro factors ⟨⟩
  · have hne := numberPairs_ne_nil hshape.nonempty hshape.length_eq
    rw [powers_of_wellShaped hshape hm]
    constructor
    · intro config hlow hhigh
      rw [ok_bind, productAll_encodedPower hne hm, powerProductWith_of_wellShaped hshape hm,
        if_pos ⟨hlow, hhigh⟩]
    · rintro factors ⟨⟩
      refine ⟨by simpa using hne, ?_, _, productAll_encodedPower hne hm⟩
      intro factor hmem
      obtain ⟨pair, -, rfl⟩ := List.mem_map.1 hmem
      exact length_encodedPower hm pair

/-- Two powers in one byte each, and the same product block by block. -/
theorem productAll_powers_two_pairs :
    (1 ≤ 1 ∧ 1 ≤ Window.maxWidth) ∧
      powers [[3], [5]] [[2], [3]] [7] = .ok [[2], [6]] ∧
      (∀ factor ∈ ([[2], [6]] : List Buffer), factor.length = 1) ∧
      (do productAll (← powers [[3], [5]] [[2], [3]] [7]) [7]) =
        powerProductWith { strategy := .batched, windowWidth := 1 } [[3], [5]] [[2], [3]] [7] := by
  have hpowers : powers [[3], [5]] [[2], [3]] [7] = .ok [[2], [6]] := by decide +kernel
  obtain ⟨hanswer, haccepted⟩ := productAll_powers [[3], [5]] [[2], [3]] [7]
  exact ⟨by decide, hpowers, (haccepted _ hpowers).2.1, hanswer _ (by decide) (by decide)⟩

end PowerProduct.Encoded
