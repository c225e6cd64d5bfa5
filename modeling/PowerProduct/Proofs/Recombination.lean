import Mathlib
import PowerProduct.Proofs.ElementwiseProducts

/-!
# Requests split, reordered and recombined

A request whose arrays are cut in two gives two requests, and the product of
their results is the result of the whole (`product_residue`,
`productAll_residue`). The pairs of a request may change their order
(`Answer.perm`), and a base may be replaced by one of its width that is
congruent to it (`Answer.replaceBases`). Blocks, tables and the choice of the
strategy shift with the positions of the pairs; none of them is seen in the
bytes. The main statement is `requests_recombine`.
-/

set_option autoImplicit false

namespace PowerProduct

open Buffer

@[simp] theorem numberPairs_cons (base exponent : Buffer) (bases exponents : List Buffer) :
    numberPairs (base :: bases) (exponent :: exponents) =
      (base.value, exponent.value) :: numberPairs bases exponents := rfl

theorem numberPairs_append {bases exponents : List Buffer}
    (hlen : bases.length = exponents.length) (bases' exponents' : List Buffer) :
    numberPairs (bases ++ bases') (exponents ++ exponents') =
      numberPairs bases exponents ++ numberPairs bases' exponents' := by
  have hlength : (bases.map value).length = (exponents.map value).length := by
    rw [List.length_map, List.length_map, hlen]
  rw [numberPairs, List.map_append, List.map_append, List.zip_append hlength, numberPairs,
    numberPairs]

/-- The numbers in the pairs of a request, pair by pair. -/
theorem numberPairs_unzip (pairs : List (Buffer × Buffer)) :
    numberPairs (pairs.map Prod.fst) (pairs.map Prod.snd) =
      pairs.map fun pair => (pair.1.value, pair.2.value) := by
  rw [numberPairs, List.map_map, List.map_map, List.zip_map']
  rfl

namespace Encoded

variable {bases exponents bases' exponents' : List Buffer} {modulus : Buffer}

/-! ## Products of residues -/

/-- The remainder of `x` by the modulus, as wide as the modulus. -/
def residue (modulus : Buffer) (x : Nat) : Buffer :=
  padTo modulus.length (ofNat (x % modulus.value))

theorem value_residue (modulus : Buffer) (x : Nat) :
    (residue modulus x).value = x % modulus.value := by
  rw [residue, value_padTo, value_ofNat]

theorem product_residue (hm : 0 < modulus.value) (x y : Nat) :
    product (residue modulus x) (residue modulus y) modulus = .ok (residue modulus (x * y)) := by
  rw [product_of_pos _ _ hm, value_residue, value_residue, ← Nat.mul_mod, residue]

theorem productAll_residue (hm : 0 < modulus.value) (x y : Nat) :
    productAll [residue modulus x, residue modulus y] modulus =
      .ok (residue modulus (x * y)) := by
  have huniform : Uniform [residue modulus x, residue modulus y] := by
    apply Uniform.of_length
    intro factor hmem
    rcases List.mem_pair.1 hmem with rfl | rfl <;> exact length_padTo_mod_value hm _
  rw [productAll_of_uniform (List.cons_ne_nil _ _) huniform hm, List.map_cons, List.map_cons,
    List.map_nil, List.prod_pair, value_residue, value_residue, ← Nat.mul_mod, residue]

/-! ## Two requests as one -/

/-- Two requests of at least one pair each that share the width of their bases
and the width of their exponents. -/
structure Joinable (bases exponents bases' exponents' : List Buffer) : Prop where
  first : WellShaped bases exponents
  second : WellShaped bases' exponents'
  uniform_bases : Uniform (bases ++ bases')
  uniform_exponents : Uniform (exponents ++ exponents')

theorem Joinable.wellShaped (h : Joinable bases exponents bases' exponents') :
    WellShaped (bases ++ bases') (exponents ++ exponents') where
  nonempty := List.append_ne_nil_of_left_ne_nil h.first.nonempty _
  length_eq := by rw [List.length_append, List.length_append, h.first.length_eq, h.second.length_eq]
  uniform_bases := h.uniform_bases
  uniform_exponents := h.uniform_exponents

theorem powerProductWith_eq_residue (h : WellShaped bases exponents) (hm : 0 < modulus.value)
    {config : Config} (hwidth : 1 ≤ config.windowWidth ∧ config.windowWidth ≤ Window.maxWidth) :
    powerProductWith config bases exponents modulus =
      .ok (residue modulus (productOfPowers (numberPairs bases exponents))) := by
  rw [powerProductWith_of_wellShaped h hm, if_pos hwidth, residue]

/-! ## The order of the pairs -/

theorem answer_of_eq {config : Config} {answer : Outcome Buffer}
    (h : powerProductWith config bases exponents modulus = answer) :
    Answer config bases exponents modulus answer := by
  obtain ⟨due, hdue⟩ := exists_answer config bases exponents modulus
  rwa [← h, hdue.eq]

section Order

variable {pairs pairs' : List (Buffer × Buffer)}

theorem WellShaped.perm (hperm : pairs.Perm pairs')
    (h : WellShaped (pairs.map Prod.fst) (pairs.map Prod.snd)) :
    WellShaped (pairs'.map Prod.fst) (pairs'.map Prod.snd) where
  nonempty := by
    intro hnil
    rw [List.map_eq_nil_iff] at hnil
    subst hnil
    exact h.nonempty (by rw [hperm.eq_nil, List.map_nil])
  length_eq := by rw [List.length_map, List.length_map]
  uniform_bases := h.uniform_bases.perm (hperm.map _)
  uniform_exponents := h.uniform_exponents.perm (hperm.map _)

/-- A result does not depend on the order of the pairs. A refusal may, since it
names the first ragged buffer. -/
theorem Answer.perm (hperm : pairs.Perm pairs') {config : Config} {out : Buffer}
    (h : Answer config (pairs.map Prod.fst) (pairs.map Prod.snd) modulus (.ok out)) :
    Answer config (pairs'.map Prod.fst) (pairs'.map Prod.snd) modulus (.ok out) := by
  cases h with
  | product hshape hm hwidth hlen hvalue =>
      -- the numbers of the pairs are in the new order too
      refine .product (hshape.perm hperm) hm hwidth hlen ?_
      rw [hvalue, numberPairs_unzip, numberPairs_unzip, productOfPowers_perm (hperm.map _)]

end Order

/-! ## Other bases -/

/-- The bases have one width and are congruent by the modulus. -/
structure Interchangeable (modulus base base' : Buffer) : Prop where
  width_eq : base.length = base'.length
  congruent : base.value ≡ base'.value [MOD modulus.value]

section Bases

variable (h : List.Forall₂ (Interchangeable modulus) bases bases')
include h

theorem map_length_eq_of_interchangeable :
    bases.map List.length = bases'.map List.length := by
  induction h with
  | nil => rfl
  | cons hhead _ ih => rw [List.map_cons, List.map_cons, hhead.width_eq, ih]

theorem productOfPowers_replaceBases (exponents : List Buffer) :
    productOfPowers (numberPairs bases exponents) ≡
      productOfPowers (numberPairs bases' exponents) [MOD modulus.value] := by
  induction h generalizing exponents with
  | nil => rfl
  | cons hhead _ ih =>
      cases exponents with
      | nil => simp [numberPairs, Nat.ModEq]
      | cons exponent rest =>
          rw [numberPairs_cons, numberPairs_cons, productOfPowers_cons, productOfPowers_cons]
          exact (hhead.congruent.pow _).mul (ih rest)

theorem WellShaped.replaceBases (hshape : WellShaped bases exponents) :
    WellShaped bases' exponents where
  nonempty := by
    rintro rfl
    exact hshape.nonempty (List.forall₂_nil_right_iff.1 h)
  length_eq := h.length_eq.symm.trans hshape.length_eq
  uniform_bases := hshape.uniform_bases.of_widths (map_length_eq_of_interchangeable h)
  uniform_exponents := hshape.uniform_exponents

/-- The checks see the widths of the bases and no more. -/
theorem Refusal.replaceBases {e : Error} (hrefusal : Refusal bases exponents modulus e) :
    Refusal bases' exponents modulus e := by
  have hlength : bases.length = bases'.length := h.length_eq
  have hwidths := map_length_eq_of_interchangeable h
  have hnonempty : bases ≠ [] → bases' ≠ [] := by
    rintro hne rfl
    exact hne (List.forall₂_nil_right_iff.1 h)
  cases hrefusal with
  | noPairs hnil =>
      subst hnil
      exact .noPairs (List.forall₂_nil_left_iff.1 h)
  | lengthMismatch hne hlen =>
      rw [hlength] at hlen ⊢
      exact .lengthMismatch (hnonempty hne) hlen
  | raggedBases hne hlen hragged =>
      exact .raggedBases (hnonempty hne) (hlength ▸ hlen) (hragged.of_widths hwidths)
  | raggedExponents hne hlen huniform hragged =>
      exact .raggedExponents (hnonempty hne) (hlength ▸ hlen)
        (huniform.of_widths hwidths) hragged
  | zeroModulus hshape hzero => exact .zeroModulus (hshape.replaceBases h) hzero

/-- The answer is the same with other bases of the same widths, whatever it
is. -/
theorem Answer.replaceBases {config : Config} {answer : Outcome Buffer}
    (hanswer : Answer config bases exponents modulus answer) :
    Answer config bases' exponents modulus answer := by
  cases hanswer with
  | refused hrefusal => exact .refused (hrefusal.replaceBases h)
  | windowOutOfRange hshape hm hwidth =>
      exact .windowOutOfRange (hshape.replaceBases h) hm hwidth
  | product hshape hm hwidth hlen hvalue =>
      refine .product (hshape.replaceBases h) hm hwidth hlen ?_
      exact hvalue.trans (productOfPowers_replaceBases h exponents)

end Bases

/-! ## The laws together -/

/-- Cutting the arrays of a request in two and multiplying the two results, by
`product` or by `productAll`, gives the bytes of the whole, whatever supported
configurations evaluate the three. A result stays the same when the pairs are
reordered, and the whole outcome stays the same when bases are replaced by
congruent ones of their width. -/
theorem requests_recombine (modulus : Buffer) :
    (∀ bases exponents bases' exponents', Joinable bases exponents bases' exponents' →
      0 < modulus.value → ∀ whole first second : Config,
      (∀ config ∈ [whole, first, second],
        1 ≤ config.windowWidth ∧ config.windowWidth ≤ Window.maxWidth) →
      ∃ left right out,
        powerProductWith first bases exponents modulus = .ok left ∧
        powerProductWith second bases' exponents' modulus = .ok right ∧
        powerProductWith whole (bases ++ bases') (exponents ++ exponents') modulus = .ok out ∧
        product left right modulus = .ok out ∧
        productAll [left, right] modulus = .ok out) ∧
    (∀ pairs pairs' : List (Buffer × Buffer), pairs.Perm pairs' → ∀ config out,
      powerProductWith config (pairs.map Prod.fst) (pairs.map Prod.snd) modulus = .ok out ↔
        powerProductWith config (pairs'.map Prod.fst) (pairs'.map Prod.snd) modulus = .ok out) ∧
    ∀ bases bases', List.Forall₂ (Interchangeable modulus) bases bases' → ∀ config exponents,
      powerProductWith config bases exponents modulus =
        powerProductWith config bases' exponents modulus := by
  refine ⟨?_, ?_, ?_⟩
  · intro bases exponents bases' exponents' hjoin hm whole first second hsupported
    have hwhole := powerProductWith_eq_residue hjoin.wellShaped hm (hsupported whole (by simp))
    -- the whole is the product of both parts, before any of the three is reduced
    rw [numberPairs_append hjoin.first.length_eq, productOfPowers_append] at hwhole
    exact ⟨_, _, _, powerProductWith_eq_residue hjoin.first hm (hsupported first (by simp)),
      powerProductWith_eq_residue hjoin.second hm (hsupported second (by simp)), hwhole,
      product_residue hm _ _, productAll_residue hm _ _⟩
  · intro pairs pairs' hperm config out
    constructor
    · intro h
      exact ((answer_of_eq h).perm hperm).eq
    · intro h
      exact ((answer_of_eq h).perm hperm.symm).eq
  · intro bases bases' hbases config exponents
    exact ((answer_of_eq rfl).replaceBases hbases).eq.symm

/-- `3 ^ 2 * 5 ^ 3` by `7`, as one request and as two, with the pairs
exchanged, and with `10` for the base `3`. -/
theorem requests_recombine_two_pairs :
    Joinable [[3]] [[2]] [[5]] [[3]] ∧ 0 < Buffer.value [7] ∧
      (∀ config ∈ [({ strategy := .batched, windowWidth := 1 } : Config), {},
          { strategy := .naive, windowWidth := 16 }],
        1 ≤ config.windowWidth ∧ config.windowWidth ≤ Window.maxWidth) ∧
      [(([3] : Buffer), ([2] : Buffer)), ([5], [3])].Perm [([5], [3]), ([3], [2])] ∧
      List.Forall₂ (Interchangeable [7]) [[3], [5]] [[10], [5]] ∧
      (∃ left right out,
        powerProductWith {} [[3]] [[2]] [7] = .ok left ∧
        powerProductWith { strategy := .naive, windowWidth := 16 } [[5]] [[3]] [7] = .ok right ∧
        powerProductWith { strategy := .batched, windowWidth := 1 } [[3], [5]] [[2], [3]] [7] =
          .ok out ∧
        product left right [7] = .ok out ∧ productAll [left, right] [7] = .ok out) ∧
      powerProductWith {} [[5], [3]] [[3], [2]] [7] = .ok [5] ∧
      powerProductWith {} [[10], [5]] [[2], [3]] [7] = .ok [5] := by
  have hjoin : Joinable [[3]] [[2]] [[5]] [[3]] := by
    refine ⟨⟨by decide, rfl, ?_, ?_⟩, ⟨by decide, rfl, ?_, ?_⟩, ?_, ?_⟩ <;> simp [Uniform]
  have hsupported : ∀ config ∈ [({ strategy := .batched, windowWidth := 1 } : Config), {},
      { strategy := .naive, windowWidth := 16 }],
      1 ≤ config.windowWidth ∧ config.windowWidth ≤ Window.maxWidth := by decide
  have hperm : [(([3] : Buffer), ([2] : Buffer)), ([5], [3])].Perm [([5], [3]), ([3], [2])] :=
    .swap _ _ _
  have hbases : List.Forall₂ (Interchangeable [7]) [[3], [5]] [[10], [5]] :=
    .cons ⟨rfl, rfl⟩ (.cons ⟨rfl, rfl⟩ .nil)
  have hresult : powerProductWith {} [[3], [5]] [[2], [3]] [7] = .ok [5] := by decide +kernel
  obtain ⟨hsplit, horder, hreplace⟩ := requests_recombine [7]
  exact ⟨hjoin, by decide, hsupported, hperm, hbases,
    hsplit _ _ _ _ hjoin (by decide) _ _ _ hsupported, (horder _ _ hperm {} [5]).1 hresult,
    (hreplace _ _ hbases {} [[2], [3]]).symm.trans hresult⟩

end Encoded

end PowerProduct
