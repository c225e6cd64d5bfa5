import Mathlib
import PowerProduct.Proofs.BlockwiseEvaluation

/-!
# The strategies agree

The answer to a request does not depend on the strategy. Called directly, the
two windowed evaluations check for pairs first, then the modulus, then the
width (`singleShot_outcome`, `batched_outcome`); `evaluate` checks the modulus
and the width before it asks for pairs (`evaluate_outcome`). The main statement
`evaluate_strategies_agree` compares them on every request, with pairs or
without.
-/

set_option autoImplicit false

namespace PowerProduct.Engine

open PairReader

/-- The answer of a windowed evaluation that is called directly. -/
def directAnswer (pairs : List (Nat × Nat)) (modulus width : Nat) : Outcome Nat :=
  if pairs = [] then refuse .noPairs
  else if modulus = 0 then refuse .zeroModulus
  else if 1 ≤ width ∧ width ≤ Window.maxWidth then .ok (productOfPowers pairs % modulus)
  else refuse (.windowOutOfRange width Window.maxWidth)

/-- The answer of an evaluation by a configuration. -/
def configuredAnswer (pairs : List (Nat × Nat)) (modulus width : Nat) : Outcome Nat :=
  if modulus = 0 then refuse .zeroModulus
  else if 1 ≤ width ∧ width ≤ Window.maxWidth then
    if pairs = [] then refuse .noPairs else .ok (productOfPowers pairs % modulus)
  else refuse (.windowOutOfRange width Window.maxWidth)

/-- With pairs, the order of the checks makes no difference. -/
theorem directAnswer_eq_configuredAnswer {pairs : List (Nat × Nat)} (hpairs : pairs ≠ [])
    (modulus width : Nat) :
    directAnswer pairs modulus width = configuredAnswer pairs modulus width := by
  rw [directAnswer, configuredAnswer, if_neg hpairs, if_neg hpairs]

/-- An evaluation answers with a number or refuses the request. -/
theorem configuredAnswer_ne_fault (pairs : List (Nat × Nat)) (modulus width : Nat) :
    (∃ value, configuredAnswer pairs modulus width = .ok value) ∨
      ∃ e, configuredAnswer pairs modulus width = refuse e := by
  unfold configuredAnswer
  split
  · exact Or.inr ⟨_, rfl⟩
  · split
    · split
      · exact Or.inr ⟨_, rfl⟩
      · exact Or.inl ⟨_, rfl⟩
    · exact Or.inr ⟨_, rfl⟩

/-- The direct answer is the product of the powers, behind the checks. -/
theorem directAnswer_eq_bind (pairs : List (Nat × Nat)) (modulus width : Nat) :
    directAnswer pairs modulus width = (do
      requireWindowed pairs.length modulus width
      return productOfPowers pairs % modulus) := by
  rw [directAnswer, requireWindowed, requireModulus, Window.requireWidth_eq]
  simp only [List.length_eq_zero_iff]
  split_ifs <;> rfl

section Answers

variable {reader : PairReader} {pairs : List (Nat × Nat)}
  (h : reader.Serves (pairs.map Prod.fst) (pairs.map Prod.snd)) (modulus : Nat)
include h

theorem singleShot_outcome (width : Nat) :
    (singleShot reader modulus width).outcome = directAnswer pairs modulus width := by
  rw [directAnswer_eq_bind, ← h.count_eq]
  rcases requireWindowed_ok_or_refuse reader.count modulus width with
    ⟨hchecks, hcount, hm, hpos, hle⟩ | ⟨e, hchecks⟩
  · rw [hchecks, singleShot_eq_ok h hm hcount hpos hle]
    rfl
  · rw [hchecks, singleShot, hchecks, Traced.lift_refuse_bind, refuse_bind]

theorem batched_outcome (width : Nat) :
    (batched reader modulus width).outcome = directAnswer pairs modulus width := by
  rw [directAnswer_eq_bind, ← h.count_eq]
  rcases requireWindowed_ok_or_refuse reader.count modulus width with
    ⟨hchecks, hcount, hm, hpos, hle⟩ | ⟨e, hchecks⟩
  · rw [hchecks, batched_eq_ok h hm hcount hpos hle]
    rfl
  · rw [hchecks, batched, hchecks, Traced.lift_refuse_bind, refuse_bind]

theorem naive_outcome (hm : 0 < modulus) :
    (naive reader modulus).outcome =
      if pairs = [] then refuse .noPairs else .ok (productOfPowers pairs % modulus) := by
  by_cases hpairs : pairs = []
  · subst hpairs
    rw [if_pos rfl, naive, readBases_of_ok (bases_all h), readExponents_of_ok (exponents_all h),
      Traced.bind_ok, Traced.bind_ok]
    rfl
  · have hcount : 0 < reader.count := by
      rw [h.count_eq]
      exact List.length_pos_iff.2 hpairs
    rw [if_neg hpairs, naive_eq_ok h hm hcount]

theorem evaluate_outcome (config : Config) :
    (evaluate reader modulus config).outcome =
      configuredAnswer pairs modulus config.windowWidth := by
  rw [evaluate, Config.check, requireModulus, Window.requireWidth_eq, configuredAnswer]
  by_cases hm : modulus = 0
  · rw [if_pos hm, if_pos hm, Traced.lift_refuse_bind]
  rw [if_neg hm, if_neg hm, Traced.lift_ok_bind]
  by_cases hwidth : 1 ≤ config.windowWidth ∧ config.windowWidth ≤ Window.maxWidth
  · rw [if_pos hwidth, if_pos hwidth, Traced.lift_ok_bind]
    have hdirect : directAnswer pairs modulus config.windowWidth =
        if pairs = [] then refuse .noPairs else .ok (productOfPowers pairs % modulus) := by
      rw [directAnswer, if_neg hm, if_pos hwidth]
    -- whichever strategy is chosen, with a positive modulus and a supported width
    cases hchoose : config.choose reader.count with
    | singleShot => exact (singleShot_outcome h modulus _).trans hdirect
    | batched => exact (batched_outcome h modulus _).trans hdirect
    | naive => exact naive_outcome h modulus (Nat.pos_of_ne_zero hm)
    | auto => exact absurd hchoose (config.choose_ne_auto reader.count)
  · rw [if_neg hwidth, if_neg hwidth, Traced.lift_refuse_bind]

end Answers

/-- The answer depends on the pairs, the modulus and the width alone, and on
the width only where it is not supported. The two windowed evaluations called
directly agree with each other, and with `evaluate` as soon as there is a pair;
without pairs they report that first, where `evaluate` reports the modulus and
then the width before. -/
theorem evaluate_strategies_agree {reader : PairReader} {bases exponents : List Nat}
    (h : reader.Serves bases exponents) (modulus : Nat) :
    (∀ config : Config,
      (∃ value, (evaluate reader modulus config).outcome = .ok value) ∨
        ∃ e, (evaluate reader modulus config).outcome = refuse e) ∧
    (∀ config other : Config, config.windowWidth = other.windowWidth →
      (evaluate reader modulus config).outcome = (evaluate reader modulus other).outcome) ∧
    (∀ config other : Config,
      1 ≤ config.windowWidth → config.windowWidth ≤ Window.maxWidth →
      1 ≤ other.windowWidth → other.windowWidth ≤ Window.maxWidth →
      (evaluate reader modulus config).outcome = (evaluate reader modulus other).outcome) ∧
    (∀ width, (singleShot reader modulus width).outcome =
      (batched reader modulus width).outcome) ∧
    (reader.count ≠ 0 → ∀ config : Config,
      (singleShot reader modulus config.windowWidth).outcome =
        (evaluate reader modulus config).outcome) ∧
    (reader.count = 0 →
      (∀ width, (singleShot reader modulus width).outcome = refuse .noPairs ∧
        (batched reader modulus width).outcome = refuse .noPairs) ∧
      ∀ config : Config, (evaluate reader modulus config).outcome =
        if modulus = 0 then refuse .zeroModulus
        else if 1 ≤ config.windowWidth ∧ config.windowWidth ≤ Window.maxWidth then refuse .noPairs
        else refuse (.windowOutOfRange config.windowWidth Window.maxWidth)) := by
  have hserves := h.zip
  have hcount := hserves.count_eq
  generalize bases.zip exponents = pairs at hserves hcount
  have hevaluate := evaluate_outcome hserves modulus
  refine ⟨?_, ?_, ?_, ?_, ?_, ?_⟩
  · intro config
    rw [hevaluate]
    exact configuredAnswer_ne_fault pairs modulus config.windowWidth
  · intro config other hsame
    rw [hevaluate, hevaluate, hsame]
  · -- supported widths pass the check, and the answer does not mention them again
    intro config other hc hc' ho ho'
    have hconfig : 1 ≤ config.windowWidth ∧ config.windowWidth ≤ Window.maxWidth := ⟨hc, hc'⟩
    have hother : 1 ≤ other.windowWidth ∧ other.windowWidth ≤ Window.maxWidth := ⟨ho, ho'⟩
    rw [hevaluate, hevaluate, configuredAnswer, configuredAnswer, if_pos hconfig, if_pos hother]
  · intro width
    rw [singleShot_outcome hserves, batched_outcome hserves]
  · intro hsome config
    have hpairs : pairs ≠ [] := by
      rintro rfl
      exact hsome hcount
    rw [singleShot_outcome hserves, hevaluate, directAnswer_eq_configuredAnswer hpairs]
  · intro hnone
    obtain rfl : pairs = [] := List.length_eq_zero_iff.1 (hcount.symm.trans hnone)
    constructor
    · intro width
      exact ⟨singleShot_outcome hserves modulus width, batched_outcome hserves modulus width⟩
    · intro config
      exact hevaluate config

/-- Two pairs in blocks of one, and one power after another. -/
theorem evaluate_strategies_agree_two_pairs :
    (NumberPairs.reader ⟨[3, 5], [2, 3]⟩).Serves [3, 5] [2, 3] ∧
      (1 ≤ 1 ∧ 1 ≤ Window.maxWidth) ∧ (1 ≤ 16 ∧ 16 ≤ Window.maxWidth) ∧
      (evaluate (NumberPairs.reader ⟨[3, 5], [2, 3]⟩) 7
          { strategy := .batched, windowWidth := 1 }).outcome =
        (evaluate (NumberPairs.reader ⟨[3, 5], [2, 3]⟩) 7
          { strategy := .naive, windowWidth := 16 }).outcome := by
  have hserves : (NumberPairs.reader ⟨[3, 5], [2, 3]⟩).Serves [3, 5] [2, 3] :=
    NumberPairs.serves_reader rfl
  refine ⟨hserves, by decide, by decide, ?_⟩
  exact (evaluate_strategies_agree hserves 7).2.2.1 _ _ (by decide) (by decide) (by decide)
    (by decide)

end PowerProduct.Engine
