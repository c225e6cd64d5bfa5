import Mathlib
import PowerProduct.Proofs.ColumnProducts
import PowerProduct.Proofs.ElementwiseProducts
import PowerProduct.Proofs.ReadDiscipline

/-!
# No operation faults

A fault is a range or an index out of bounds, a remainder by zero, a width of
blocks that is zero, a number of tables that differs from the number of blocks,
a copy between buffers of different lengths, or a strategy left open. A step
that faults ends its operation with that fault. The main statement `operations_faultless` says that
no operation ends so, whatever its arguments are: each has a result or refuses
its request. It adds that a windowed evaluation cannot fail once its own checks
have passed, so no refusal of a table reaches its caller.
-/

set_option autoImplicit false

namespace PowerProduct

/-! ## Requests over buffers -/

namespace Encoded

theorem faultless_powerProductWith (config : Config) (bases exponents : List Buffer)
    (modulus : Buffer) : Faultless (powerProductWith config bases exponents modulus) := by
  rcases refusal_or_wellShaped bases exponents modulus with ⟨e, hrefusal⟩ | ⟨hshape, hm⟩
  · rw [powerProductWith_of_refusal hrefusal]
    exact .of_refuse e
  · rw [powerProductWith_of_wellShaped hshape hm]
    split
    · exact .of_ok _
    · exact .of_refuse _

theorem faultless_powers (bases exponents : List Buffer) (modulus : Buffer) :
    Faultless (powers bases exponents modulus) := by
  rcases refusal_or_wellShaped bases exponents modulus with ⟨e, hrefusal⟩ | ⟨hshape, hm⟩
  · rw [powers_of_refusal hrefusal]
    exact .of_refuse e
  · rw [powers_of_wellShaped hshape hm]
    exact .of_ok _

theorem faultless_product (a b modulus : Buffer) : Faultless (product a b modulus) := by
  rcases Nat.eq_zero_or_pos modulus.value with hzero | hm
  · rw [product_of_zero a b hzero]
    exact .of_refuse _
  · rw [product_of_pos a b hm]
    exact .of_ok _

theorem faultless_productAll (values : List Buffer) (modulus : Buffer) :
    Faultless (productAll values modulus) := by
  rcases valuesRefusal_or_uniform values modulus with ⟨e, hrefusal⟩ | ⟨hne, huniform, hm⟩
  · rw [productAll_of_refusal hrefusal]
    exact .of_refuse e
  · rw [productAll_of_uniform hne huniform hm]
    exact .of_ok _

end Encoded

/-! ## Evaluations over readers -/

theorem Engine.faultless_run {reader : PairReader} (h : reader.ServesRanges) (modulus : Nat)
    (evaluation : Evaluation) : Faultless (evaluation.run reader modulus).outcome := by
  rcases evaluation.run_cases h modulus with ⟨-, -, value, hrun⟩ | ⟨e, reads, -, -, hrun⟩
  · rw [hrun]
    exact .of_ok value
  · rw [hrun]
    exact .of_refuse e

/-! ## Requests over numbers -/

namespace Request

theorem faultless_requirePairs (bases exponents : Nat) :
    Faultless (requirePairs bases exponents) := by
  unfold requirePairs
  split
  · exact .of_refuse _
  · split
    · exact .of_refuse _
    · exact .of_ok _

theorem faultless_evaluate (request : Request) (config : Config) :
    Faultless (request.evaluate config) := by
  rw [evaluate, NumberPairs.ofLists]
  rcases (faultless_requirePairs request.bases.length request.exponents.length).ok_or_refuse with
    ⟨_, hpairs⟩ | ⟨e, hpairs⟩
  · -- the lists are equally long, so their reader serves them
    have hserves : (NumberPairs.reader ⟨request.bases, request.exponents⟩).Serves request.bases
        request.exponents := NumberPairs.serves_reader (requirePairs_eq_ok.1 hpairs).2
    rw [hpairs, ok_bind]
    exact Engine.faultless_run hserves.servesRanges request.modulus (.configured config)
  · rw [hpairs, refuse_bind, refuse_bind]
    exact .of_refuse e

theorem faultless_evaluateAll (requests : List Request) (config : Config) :
    ∀ outcome ∈ evaluateAll requests config, Faultless outcome := by
  intro outcome hmem
  obtain ⟨request, -, rfl⟩ := List.mem_map.1 hmem
  exact faultless_evaluate request config

theorem faultless_evaluateColumns (rows : List (List Nat)) (exponents : List Nat) (modulus : Nat)
    (config : Config) : Faultless (evaluateColumns rows exponents modulus config) := by
  rcases columnRefusal_or_shaped rows exponents modulus config with
    ⟨e, hrefusal⟩ | ⟨⟨columns, hshape⟩, hm, hwidth⟩
  · rw [evaluateColumns_of_refusal hrefusal]
    exact .of_refuse e
  · rw [evaluateColumns_of_shaped hshape hm hwidth]
    exact .of_ok _

end Request

/-- Every operation on buffers, on numbers and on the columns of a matrix has a
result or refuses its request, and so has every evaluation over a reader that
answers the ranges inside the request. A windowed evaluation whose own checks
pass has a result: filling and narrowing its tables refuses nothing. -/
theorem operations_faultless :
    (∀ strategy bases exponents modulus,
      Faultless (Encoded.powerProductBy strategy bases exponents modulus)) ∧
    (∀ config bases exponents modulus,
      Faultless (Encoded.powerProductWith config bases exponents modulus)) ∧
    (∀ a b modulus, Faultless (Encoded.product a b modulus)) ∧
    (∀ values modulus, Faultless (Encoded.productAll values modulus)) ∧
    (∀ bases exponents modulus, Faultless (Encoded.powers bases exponents modulus)) ∧
    (∀ (request : Request) config, Faultless (request.evaluate config)) ∧
    (∀ requests config, ∀ outcome ∈ Request.evaluateAll requests config, Faultless outcome) ∧
    (∀ rows exponents modulus config,
      Faultless (Request.evaluateColumns rows exponents modulus config)) ∧
    ∀ reader : PairReader, reader.ServesRanges → ∀ modulus,
      (∀ evaluation : Engine.Evaluation, Faultless (evaluation.run reader modulus).outcome) ∧
      ∀ width, Engine.requireWindowed reader.count modulus width = .ok () →
        (∃ value, (Engine.singleShot reader modulus width).outcome = .ok value) ∧
          ∃ value, (Engine.batched reader modulus width).outcome = .ok value := by
  refine ⟨?_, Encoded.faultless_powerProductWith, Encoded.faultless_product,
    Encoded.faultless_productAll, Encoded.faultless_powers, Request.faultless_evaluate,
    Request.faultless_evaluateAll, Request.faultless_evaluateColumns, ?_⟩
  · intro strategy bases exponents modulus
    exact Encoded.faultless_powerProductWith { strategy } bases exponents modulus
  · intro reader hreader modulus
    refine ⟨Engine.faultless_run hreader modulus, ?_⟩
    intro width hchecks
    rcases Engine.windowed_cases hreader modulus width with
      ⟨-, -, -, ⟨value, hsingle⟩, ⟨value', hbatched⟩⟩ | ⟨e, hrefused, -, -⟩
    · exact ⟨⟨value, by rw [hsingle]⟩, value', by rw [hbatched]⟩
    · rw [hchecks] at hrefused
      cases hrefused

/-- Two pairs pass the checks and have a value in blocks of one. -/
theorem operations_faultless_two_pairs :
    (NumberPairs.reader ⟨[3, 5], [2, 3]⟩).ServesRanges ∧
      Engine.requireWindowed 2 7 1 = .ok () ∧
      (∃ value, (Engine.singleShot (NumberPairs.reader ⟨[3, 5], [2, 3]⟩) 7 1).outcome =
        .ok value) ∧
      ∃ value, (Engine.batched (NumberPairs.reader ⟨[3, 5], [2, 3]⟩) 7 1).outcome =
        .ok value := by
  have hserves : (NumberPairs.reader ⟨[3, 5], [2, 3]⟩).ServesRanges :=
    (NumberPairs.serves_reader rfl).servesRanges
  have hchecks : Engine.requireWindowed 2 7 1 = .ok () := by decide
  obtain ⟨-, -, -, -, -, -, -, -, hreaders⟩ := operations_faultless
  exact ⟨hserves, hchecks, (hreaders _ hserves 7).2 1 hchecks⟩

end PowerProduct
