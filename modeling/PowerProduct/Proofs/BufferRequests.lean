import Mathlib
import PowerProduct.Encoded
import PowerProduct.Proofs.CommonWidth
import PowerProduct.Proofs.Encoding
import PowerProduct.Proofs.StrategyAgreement

/-!
# Requests over buffers

A request over buffers is checked in a fixed order, evaluated over the numbers
in the buffers, and answered by a buffer as wide as the modulus. The checks
that do not depend on the configuration are `requireArrays`, and `Refusal` lists
the reasons for which they refuse a request. Of a request that they pass only
the window width is left to check (`powerProductWith_of_wellShaped`). The
relation `Answer` lists the answers a request can have, with the conditions of
each, and `powerProductWith_iff_answer` states that the operation gives exactly
these.
-/

set_option autoImplicit false

namespace PowerProduct

open Buffer

/-! ## The pairs in two arrays -/

/-- The numbers in two arrays of buffers, paired. -/
def numberPairs (bases exponents : List Buffer) : List (Nat × Nat) :=
  (bases.map value).zip (exponents.map value)

theorem numberPairs_ne_nil {bases exponents : List Buffer} (hne : bases ≠ [])
    (hlen : bases.length = exponents.length) : numberPairs bases exponents ≠ [] := by
  have hpos : 0 < bases.length := List.length_pos_iff.2 hne
  rw [← List.length_pos_iff, numberPairs, List.length_zip, List.length_map, List.length_map,
    ← hlen, Nat.min_self]
  exact hpos

theorem decodeAll_eq (buffers : List Buffer) (width : Nat) :
    decodeAll buffers width = buffers.map value := rfl

/-- Decoding a range of an array yields the range of its numbers. -/
theorem decodeAll_entriesBetween (buffers : List Buffer) (width start stop : Nat) :
    (do return decodeAll (← entriesBetween buffers start stop) width : Except Fault (List Nat)) =
      entriesBetween (buffers.map value) start stop := by
  unfold entriesBetween
  rw [List.length_map]
  split
  · rw [← List.map_drop, ← List.map_take]
    rfl
  · rfl

theorem BufferPairs.serves_reader {pairs : BufferPairs}
    (h : pairs.bases.length = pairs.exponents.length) :
    pairs.reader.Serves (pairs.bases.map value) (pairs.exponents.map value) where
  count_bases := (List.length_map ..).symm
  count_exponents := h.trans (List.length_map ..).symm
  bases_eq _ _ _ _ := decodeAll_entriesBetween ..
  exponents_eq _ _ _ _ := decodeAll_entriesBetween ..

/-- A remainder by the modulus fits a buffer as wide as the modulus is given. -/
theorem encode_mod_value {modulus : Buffer} (hm : 0 < modulus.value) (x : Nat) :
    encode (x % modulus.value) modulus.length =
      .ok (padTo modulus.length (ofNat (x % modulus.value))) :=
  encode_of_lt ((Nat.mod_lt x hm).trans (value_lt modulus))

theorem length_padTo_mod_value {modulus : Buffer} (hm : 0 < modulus.value) (x : Nat) :
    (padTo modulus.length (ofNat (x % modulus.value))).length = modulus.length :=
  length_encoding ((Nat.mod_lt x hm).trans (value_lt modulus))

namespace Encoded

/-! ## The checks on arrays -/

/-- What the operations on powers check of their buffers, in this order. -/
def requireArrays (bases exponents : List Buffer) (modulus : Buffer) : Outcome Unit := do
  requirePairs bases.length exponents.length
  let _ ← commonWidth bases "bases"
  let _ ← commonWidth exponents "exponents"
  requireModulus modulus.value

/-- At least one pair, and one width on each side. -/
structure WellShaped (bases exponents : List Buffer) : Prop where
  nonempty : bases ≠ []
  length_eq : bases.length = exponents.length
  uniform_bases : Uniform bases
  uniform_exponents : Uniform exponents

/-- Why the buffers of a request are refused. Each reason stands after the
absence of those before it. -/
inductive Refusal (bases exponents : List Buffer) (modulus : Buffer) : Error → Prop where
  | noPairs (hnil : bases = []) : Refusal bases exponents modulus .noPairs
  | lengthMismatch (hne : bases ≠ []) (hlen : bases.length ≠ exponents.length) :
      Refusal bases exponents modulus (.lengthMismatch bases.length exponents.length)
  | raggedBases {index expected actual : Nat} (hne : bases ≠ [])
      (hlen : bases.length = exponents.length)
      (hragged : FirstRagged bases index expected actual) :
      Refusal bases exponents modulus (.raggedWidth "bases" index expected actual)
  | raggedExponents {index expected actual : Nat} (hne : bases ≠ [])
      (hlen : bases.length = exponents.length) (huniform : Uniform bases)
      (hragged : FirstRagged exponents index expected actual) :
      Refusal bases exponents modulus (.raggedWidth "exponents" index expected actual)
  | zeroModulus (hshape : WellShaped bases exponents) (hzero : ∀ byte ∈ modulus, byte = 0) :
      Refusal bases exponents modulus .zeroModulus

section Checks

variable {bases exponents : List Buffer} {modulus : Buffer}

theorem requireArrays_of_wellShaped (h : WellShaped bases exponents) :
    requireArrays bases exponents modulus = requireModulus modulus.value := by
  obtain ⟨baseWidth, hbases⟩ := commonWidth_of_uniform h.uniform_bases "bases"
  obtain ⟨exponentWidth, hexponents⟩ := commonWidth_of_uniform h.uniform_exponents "exponents"
  rw [requireArrays, requirePairs_of_ne_nil h.nonempty h.length_eq, ok_bind, hbases, ok_bind,
    hexponents, ok_bind]

theorem requireArrays_of_refusal {e : Error} (h : Refusal bases exponents modulus e) :
    requireArrays bases exponents modulus = refuse e := by
  cases h with
  | noPairs hnil =>
      subst hnil
      rfl
  | lengthMismatch hne hlen =>
      have hcount : bases.length ≠ 0 := fun hzero => hne (List.length_eq_zero_iff.1 hzero)
      rw [requireArrays, requirePairs, if_neg hcount, if_pos hlen, refuse_bind]
  | raggedBases hne hlen hragged =>
      rw [requireArrays, requirePairs_of_ne_nil hne hlen, ok_bind,
        commonWidth_of_firstRagged hragged, refuse_bind]
  | raggedExponents hne hlen huniform hragged =>
      obtain ⟨baseWidth, hbases⟩ := commonWidth_of_uniform huniform "bases"
      rw [requireArrays, requirePairs_of_ne_nil hne hlen, ok_bind, hbases, ok_bind,
        commonWidth_of_firstRagged hragged, refuse_bind]
  | zeroModulus hshape hzero =>
      rw [requireArrays_of_wellShaped hshape, requireModulus,
        if_pos ((value_eq_zero_iff modulus).2 hzero)]

/-- Buffers without a reason to be refused are well shaped, under a positive
modulus. -/
theorem refusal_or_wellShaped (bases exponents : List Buffer) (modulus : Buffer) :
    (∃ e, Refusal bases exponents modulus e) ∨
      (WellShaped bases exponents ∧ 0 < modulus.value) := by
  by_cases hne : bases = []
  · exact Or.inl ⟨_, .noPairs hne⟩
  by_cases hlen : bases.length = exponents.length
  case neg => exact Or.inl ⟨_, .lengthMismatch hne hlen⟩
  rcases uniform_or_firstRagged bases with hbases | ⟨index, expected, actual, hragged⟩
  case inr => exact Or.inl ⟨_, .raggedBases hne hlen hragged⟩
  rcases uniform_or_firstRagged exponents with hexponents | ⟨index, expected, actual, hragged⟩
  case inr => exact Or.inl ⟨_, .raggedExponents hne hlen hbases hragged⟩
  have hshape : WellShaped bases exponents := ⟨hne, hlen, hbases, hexponents⟩
  rcases Nat.eq_zero_or_pos modulus.value with hzero | hm
  · exact Or.inl ⟨_, .zeroModulus hshape ((value_eq_zero_iff modulus).1 hzero)⟩
  · exact Or.inr ⟨hshape, hm⟩

end Checks

/-! ## What follows the checks -/

theorem decodeModulus_eq (modulus : Buffer) :
    decodeModulus modulus = do
      requireModulus modulus.value
      return modulus.value := rfl

theorem decodeModulus_of_pos {modulus : Buffer} (hm : 0 < modulus.value) :
    decodeModulus modulus = .ok modulus.value := by
  rw [decodeModulus_eq, requireModulus_of_pos hm, ok_bind]
  rfl

/-- The checks on the buffers come first, and the widths they find are not
looked at again. -/
theorem powerProductWith_eq_bind (config : Config) (bases exponents : List Buffer)
    (modulus : Buffer) :
    powerProductWith config bases exponents modulus = (do
      requireArrays bases exponents modulus
      let result ← (Engine.evaluate (BufferPairs.reader ⟨bases, exponents, 0, 0⟩)
        modulus.value config).outcome
      encode result modulus.length) := by
  -- both sides take the same steps, which are nested differently
  simp only [powerProductWith, BufferPairs.ofBuffers, decodeModulus_eq, requireArrays, bind_assoc,
    pure_bind]
  rfl

theorem powerProductWith_of_refusal {bases exponents : List Buffer} {modulus : Buffer} {e : Error}
    (h : Refusal bases exponents modulus e) (config : Config) :
    powerProductWith config bases exponents modulus = refuse e := by
  rw [powerProductWith_eq_bind, requireArrays_of_refusal h, refuse_bind]

/-- Of buffers in order, the evaluation leaves the window width to check. -/
theorem powerProductWith_of_wellShaped {bases exponents : List Buffer} {modulus : Buffer}
    (h : WellShaped bases exponents) (hm : 0 < modulus.value) (config : Config) :
    powerProductWith config bases exponents modulus =
      if 1 ≤ config.windowWidth ∧ config.windowWidth ≤ Window.maxWidth then
        .ok (padTo modulus.length
          (ofNat (productOfPowers (numberPairs bases exponents) % modulus.value)))
      else refuse (.windowOutOfRange config.windowWidth Window.maxWidth) := by
  have hserves : (BufferPairs.reader ⟨bases, exponents, 0, 0⟩).Serves (bases.map value)
      (exponents.map value) :=
    BufferPairs.serves_reader h.length_eq
  have hanswer := Engine.evaluate_outcome hserves.zip modulus.value config
  rw [← numberPairs, Engine.configuredAnswer, if_neg hm.ne',
    if_neg (numberPairs_ne_nil h.nonempty h.length_eq)] at hanswer
  rw [powerProductWith_eq_bind, requireArrays_of_wellShaped h, requireModulus_of_pos hm, ok_bind,
    hanswer]
  by_cases hwidth : 1 ≤ config.windowWidth ∧ config.windowWidth ≤ Window.maxWidth
  · rw [if_pos hwidth, if_pos hwidth, ok_bind, encode_mod_value hm]
  · rw [if_neg hwidth, if_neg hwidth, refuse_bind]

/-! ## The answers -/

/-- The answers of a request: its refusal, the refusal of an unsupported window
width, whatever the strategy, or the product of powers as a buffer of the width
of the modulus. -/
inductive Answer (config : Config) (bases exponents : List Buffer) (modulus : Buffer) :
    Outcome Buffer → Prop where
  | refused {e : Error} (h : Refusal bases exponents modulus e) :
      Answer config bases exponents modulus (refuse e)
  | windowOutOfRange (hshape : WellShaped bases exponents) (hm : ∃ byte ∈ modulus, byte ≠ 0)
      (hwidth : ¬ (1 ≤ config.windowWidth ∧ config.windowWidth ≤ Window.maxWidth)) :
      Answer config bases exponents modulus
        (refuse (.windowOutOfRange config.windowWidth Window.maxWidth))
  | product {out : Buffer} (hshape : WellShaped bases exponents)
      (hm : ∃ byte ∈ modulus, byte ≠ 0)
      (hwidth : 1 ≤ config.windowWidth ∧ config.windowWidth ≤ Window.maxWidth)
      (hlen : out.length = modulus.length)
      (hvalue : out.value = productOfPowers (numberPairs bases exponents) % modulus.value) :
      Answer config bases exponents modulus (.ok out)

section Answers

variable {config : Config} {bases exponents : List Buffer} {modulus : Buffer}
  {answer : Outcome Buffer}

/-- An answer is what the operation gives. -/
theorem Answer.eq (h : Answer config bases exponents modulus answer) :
    powerProductWith config bases exponents modulus = answer := by
  cases h with
  | refused h => exact powerProductWith_of_refusal h config
  | windowOutOfRange hshape hm hwidth =>
      rw [powerProductWith_of_wellShaped hshape ((value_pos_iff modulus).2 hm)]
      exact if_neg hwidth
  | product hshape hm hwidth hlen hvalue =>
      have hpos := (value_pos_iff modulus).2 hm
      rw [powerProductWith_of_wellShaped hshape hpos, if_pos hwidth]
      -- two buffers of the width of the modulus that hold the same number
      apply congrArg Except.ok
      apply eq_of_value_eq
      · rw [length_padTo_mod_value hpos, hlen]
      · rw [value_padTo, value_ofNat, hvalue]

theorem exists_answer (config : Config) (bases exponents : List Buffer) (modulus : Buffer) :
    ∃ answer, Answer config bases exponents modulus answer := by
  rcases refusal_or_wellShaped bases exponents modulus with ⟨e, h⟩ | ⟨hshape, hm⟩
  · exact ⟨_, .refused h⟩
  · have hbyte := (value_pos_iff modulus).1 hm
    by_cases hwidth : 1 ≤ config.windowWidth ∧ config.windowWidth ≤ Window.maxWidth
    · have hvalue : (padTo modulus.length (ofNat (productOfPowers (numberPairs bases exponents) %
          modulus.value))).value =
          productOfPowers (numberPairs bases exponents) % modulus.value := by
        rw [value_padTo, value_ofNat]
      exact ⟨_, .product hshape hbyte hwidth (length_padTo_mod_value hm _) hvalue⟩
    · exact ⟨_, .windowOutOfRange hshape hbyte hwidth⟩

/-- An answer is no overflow. -/
theorem Answer.ne_overflow (h : Answer config bases exponents modulus answer)
    (needed width : Nat) : answer ≠ refuse (.overflow needed width) := by
  cases h with
  | refused h => cases h <;> rintro ⟨⟩
  | windowOutOfRange => rintro ⟨⟩
  | product => rintro ⟨⟩

end Answers

/-- The operation gives exactly the answer that is due, under any
configuration, and a result always fits its buffer. -/
theorem powerProductWith_iff_answer (config : Config) (bases exponents : List Buffer)
    (modulus : Buffer) :
    (∀ answer, powerProductWith config bases exponents modulus = answer ↔
        Answer config bases exponents modulus answer) ∧
      ∀ needed width,
        powerProductWith config bases exponents modulus ≠ refuse (.overflow needed width) := by
  obtain ⟨due, hdue⟩ := exists_answer config bases exponents modulus
  rw [hdue.eq]
  constructor
  · intro answer
    constructor
    · rintro rfl
      exact hdue
    · intro h
      exact hdue.eq.symm.trans h.eq
  · exact hdue.ne_overflow

end Encoded

end PowerProduct
