import Mathlib
import PowerProduct.Proofs.BlockwiseEvaluation

/-!
# The windowed evaluations

Both windowed evaluations end in the product of the powers, for every number of
pairs and every supported width. The evaluation of all pairs at once makes a
table for each block (`singleShot_productOfPowers`). The blockwise evaluation
keeps one table. `stateBefore` gives its state before each block, and
`exists_stateBefore` is the invariant of the loop. A block works as on a table
made for it alone (`BeforeBlock.evaluatesBlock`), and the table is narrowed for
no block but the last. The main statement on the loop is `batched_reuses_table`.
-/

set_option autoImplicit false

namespace PowerProduct

/-- A computation with a result passes it on. -/
theorem Traced.outcome_bind_of_ok {α β : Type} {x : Traced α} {a : α} (h : x.outcome = .ok a)
    (next : α → Traced β) : (x >>= next).outcome = (next a).outcome := by
  rcases x with ⟨outcome, reads⟩
  obtain rfl : outcome = .ok a := h
  rfl

/-- Exponents of zero make every power one. -/
theorem productOfPowers_eq_one {pairs : List (Nat × Nat)} (h : ∀ pair ∈ pairs, pair.2 = 0) :
    productOfPowers pairs = 1 := by
  have hshort : ∀ pair ∈ pairs, pair.2 < 2 ^ 0 := by
    intro pair hmem
    rw [h pair hmem]
    exact Nat.two_pow_pos 0
  rw [← shiftExponents_zero pairs]
  exact productOfPowers_shiftExponents_eq_one hshort

namespace Engine

open SubsetTable PairReader

/-! ## All pairs at once -/

/-- The evaluation with one table for each block gives the product of the
powers by the modulus, whether or not the width divides the number of pairs or
exceeds it, and however long the exponents are. If all exponents are zero, that
is one by the modulus, and by the modulus one it is zero. -/
theorem singleShot_productOfPowers {reader : PairReader} {bases exponents : List Nat}
    {modulus width : Nat} (h : reader.Serves bases exponents) (hcount : 0 < reader.count)
    (hm : 0 < modulus) (hpos : 1 ≤ width) (hle : width ≤ Window.maxWidth) :
    (singleShot reader modulus width).outcome =
        .ok (productOfPowers (bases.zip exponents) % modulus) ∧
      ((∀ exponent ∈ exponents, exponent = 0) →
        (singleShot reader modulus width).outcome = .ok (1 % modulus)) ∧
      (modulus = 1 → (singleShot reader modulus width).outcome = .ok 0) := by
  have hrun : (singleShot reader modulus width).outcome =
      .ok (productOfPowers (bases.zip exponents) % modulus) := by
    rw [singleShot_eq_ok h.zip hm hcount hpos hle]
  refine ⟨hrun, ?_, ?_⟩
  · intro hzero
    rw [hrun, productOfPowers_eq_one fun pair hmem => hzero _ (List.of_mem_zip hmem).2]
  · intro hone
    rw [hrun, hone, Nat.mod_one]

/-- Three pairs in blocks of two, with exponents of one, seven and no bits; the
same with exponents of zero; and the first ones by the modulus one. -/
theorem singleShot_productOfPowers_three_pairs :
    (NumberPairs.reader ⟨[2, 3, 4], [1, 70, 0]⟩).Serves [2, 3, 4] [1, 70, 0] ∧
      (0 < 3 ∧ 0 < 13 ∧ 1 ≤ 2 ∧ 2 ≤ Window.maxWidth) ∧
      (singleShot (NumberPairs.reader ⟨[2, 3, 4], [1, 70, 0]⟩) 13 2).outcome = .ok 6 ∧
      (∀ exponent ∈ [0, 0, 0], exponent = 0) ∧
      (singleShot (NumberPairs.reader ⟨[2, 3, 4], [0, 0, 0]⟩) 13 2).outcome = .ok 1 ∧
      (singleShot (NumberPairs.reader ⟨[2, 3, 4], [1, 70, 0]⟩) 1 2).outcome = .ok 0 := by
  have hserves : (NumberPairs.reader ⟨[2, 3, 4], [1, 70, 0]⟩).Serves [2, 3, 4] [1, 70, 0] :=
    NumberPairs.serves_reader rfl
  have hzeros : (NumberPairs.reader ⟨[2, 3, 4], [0, 0, 0]⟩).Serves [2, 3, 4] [0, 0, 0] :=
    NumberPairs.serves_reader rfl
  have hzero : ∀ exponent ∈ [0, 0, 0], exponent = 0 := by decide
  obtain ⟨hrun, -, -⟩ := singleShot_productOfPowers hserves (show 0 < 3 by decide)
    (show 0 < 13 by decide) (show 1 ≤ 2 by decide) (by decide)
  obtain ⟨-, hone, -⟩ := singleShot_productOfPowers hzeros (show 0 < 3 by decide)
    (show 0 < 13 by decide) (show 1 ≤ 2 by decide) (by decide)
  obtain ⟨-, -, hunit⟩ := singleShot_productOfPowers hserves (show 0 < 3 by decide)
    (show 0 < 1 by decide) (show 1 ≤ 2 by decide) (by decide)
  refine ⟨hserves, by decide, hrun.trans ?_, hzero, hone hzero, hunit rfl⟩
  exact congrArg Except.ok (by decide)

/-! ## One table for all blocks -/

/-- The state of the blockwise evaluation before block `k`: the loop over the
blocks before it, from a table of zeros and the product one. -/
def stateBefore (reader : PairReader) (modulus width k : Nat) : Traced Progress := do
  let table ← SubsetTable.blank (min width reader.count) modulus
  let one ← Modular.reduce 1 modulus
  requireBlockWidth width
  ((blockStarts reader.count width).take k).foldlM (batchedBlock reader modulus width) ⟨table, one⟩

/-- Block `k` takes the state from `before` to `after` as if it had a table of
its own. -/
structure EvaluatesBlock (pairs : List (Nat × Nat)) (modulus width k : Nat)
    (before after : Progress) : Prop where
  /-- The product so far is that of the blocks before. -/
  product_before : before.product = productOfPowers (pairs.take (k * width)) % modulus
  /-- The table of the block before is filled again. It is narrowed only for
  the last block. -/
  refilled : ∃ fitted, fitTable before.table (blockAt width k pairs).length = .ok fitted ∧
    (fitted = before.table ∨ k + 1 = blockCount pairs.length width) ∧
    fitted.after (fill ((blockAt width k pairs).map Prod.fst)) = .ok after.table
  /-- Then it is the table that is made afresh for the block. -/
  fresh : blockTable modulus ((blockAt width k pairs).map Prod.fst) = .ok after.table
  /-- The sweep over it gives the product of the block alone. -/
  swept : Sweep.run [after.table] ((blockAt width k pairs).map Prod.snd) width modulus =
    .ok (productOfPowers (blockAt width k pairs) % modulus)
  /-- That product multiplies the product so far. -/
  product_after : after.product =
    before.product * (productOfPowers (blockAt width k pairs) % modulus) % modulus

/-- The blockwise evaluation checks the request and ends with the product of
the state after the last block. -/
theorem batched_eq_stateBefore (reader : PairReader) (modulus width : Nat) :
    batched reader modulus width = (do
      requireWindowed reader.count modulus width
      let last ← stateBefore reader modulus width (blockCount reader.count width)
      return last.product) := by
  have hall : (blockStarts reader.count width).take (blockCount reader.count width) =
      blockStarts reader.count width := by
    apply List.take_of_length_le
    rw [blockStarts, List.length_map, List.length_range]
  simp only [batched, stateBefore, hall, bind_assoc]

/-- One block leads from a state to the next one. -/
theorem stateBefore_succ (reader : PairReader) (modulus : Nat) {width k : Nat}
    (hk : k < blockCount reader.count width) :
    stateBefore reader modulus width (k + 1) = (do
      batchedBlock reader modulus width (← stateBefore reader modulus width k) (k * width)) := by
  have hnext : (blockStarts reader.count width).take (k + 1) =
      (blockStarts reader.count width).take k ++ [k * width] := by
    rw [blockStarts, List.take_add_one, List.getElem?_map, List.getElem?_range hk]
    rfl
  simp only [stateBefore, hnext, bind_assoc, List.foldlM_append, List.foldlM_cons,
    List.foldlM_nil, bind_pure]

/-- From a state that is ready for block `k`, with a table not wider than a full
block, the block is evaluated as on a table of its own. -/
theorem BeforeBlock.evaluatesBlock {pairs : List (Nat × Nat)} {modulus width k : Nat}
    {before : Progress} (hm : 0 < modulus) (hle : width ≤ Window.maxWidth)
    (hk : k * width < pairs.length) (hbefore : BeforeBlock pairs modulus width k before)
    (hwidth : before.table.width ≤ width) :
    EvaluatesBlock pairs modulus width k before
      (nextProgress pairs modulus width k before.product) := by
  have hlen := length_blockAt width k pairs
  have hfst : ((blockAt width k pairs).map Prod.fst).length = (blockAt width k pairs).length :=
    List.length_map _
  have hpos : 1 ≤ (blockAt width k pairs).length := by
    have hwf := hbefore.wellFormed.width_pos
    omega
  obtain ⟨fitted, hfit, hwf, hfitted, hmod⟩ :=
    fitTable_eq_ok hbefore.wellFormed hpos (hlen ▸ hbefore.fits)
  refine ⟨hbefore.product_eq, ⟨fitted, hfit, ?_, ?_⟩, ?_, ?_, rfl⟩
  · -- a block that is not the last one is as wide as the table can be
    by_cases hnarrow : (blockAt width k pairs).length < before.table.width
    · right
      apply succ_eq_blockCount (by omega) hk
      rw [Nat.succ_mul]
      omega
    · left
      rw [fitTable, if_neg hnarrow] at hfit
      exact (Except.ok.inj hfit).symm
  · rw [after_fill hwf (hfst.trans hfitted.symm), hmod, hbefore.modulus_eq]
    rfl
  · exact blockTable_eq_ok hm (hfst ▸ hpos) (by omega)
  · exact Sweep.run_block_eq_ok hm hpos (by omega)

section Loop

variable {reader : PairReader} {pairs : List (Nat × Nat)} {modulus width : Nat}
  (h : reader.Serves (pairs.map Prod.fst) (pairs.map Prod.snd)) (hm : 0 < modulus)
  (hcount : 0 < reader.count) (hpos : 1 ≤ width) (hle : width ≤ Window.maxWidth)
include h hm hcount hpos hle

/-- The loop comes to every block, with a table that is wide enough for it and
not wider than a full block. -/
theorem exists_stateBefore {k : Nat} (hk : k ≤ blockCount reader.count width) :
    ∃ before, (stateBefore reader modulus width k).outcome = .ok before ∧
      BeforeBlock pairs modulus width k before ∧ before.table.width ≤ width := by
  -- by induction on the blocks before
  induction k with
  | zero =>
      have hmin : 1 ≤ min width reader.count := by omega
      have hmax : min width reader.count ≤ Window.maxWidth := by omega
      have hblank : BeforeBlock pairs modulus width 0 _ :=
        beforeBlock_zero hm hpos hle (h.count_eq ▸ hcount)
      refine ⟨_, ?_, hblank, Nat.min_le_left _ _⟩
      rw [stateBefore, blank_eq_ok hmin hmax hm, Traced.lift_ok_bind, Modular.reduce_of_pos hm,
        Traced.lift_ok_bind, requireBlockWidth_of_pos hpos, Traced.lift_ok_bind, h.count_eq]
      rfl
  | succ k ih =>
      have hlt : k * width < reader.count := (lt_blockCount_iff hpos).1 hk
      obtain ⟨before, hstate, hbefore, -⟩ := ih (Nat.le_of_succ_le hk)
      refine ⟨_, ?_, hbefore.next hm hpos hle (h.count_eq ▸ hlt), ?_⟩
      · rw [stateBefore_succ reader modulus hk, Traced.outcome_bind_of_ok hstate,
          hbefore.batchedBlock_eq h hm hpos hlt]
      · show ((blockAt width k pairs).map Prod.fst).length ≤ width
        rw [List.length_map, length_blockAt]
        exact Nat.min_le_left _ _

end Loop

/-- The blockwise evaluation gives the product of the powers by the modulus.
Its loop comes to every block and through it: neither narrowing nor filling is
refused once the request has been accepted. Each block finds what the block
before it left of the one table and works as on a table of its own, so nothing
of another block enters its product; and no block but the last narrows the
table. -/
theorem batched_reuses_table {reader : PairReader} {bases exponents : List Nat}
    {modulus width : Nat} (h : reader.Serves bases exponents) (hcount : 0 < reader.count)
    (hm : 0 < modulus) (hpos : 1 ≤ width) (hle : width ≤ Window.maxWidth) :
    (batched reader modulus width).outcome =
        .ok (productOfPowers (bases.zip exponents) % modulus) ∧
      (batched reader modulus width = do
        requireWindowed reader.count modulus width
        let last ← stateBefore reader modulus width (blockCount reader.count width)
        return last.product) ∧
      ∀ k < blockCount reader.count width, ∃ before after,
        (stateBefore reader modulus width k).outcome = .ok before ∧
        (stateBefore reader modulus width (k + 1)).outcome = .ok after ∧
        EvaluatesBlock (bases.zip exponents) modulus width k before after := by
  have hserves := h.zip
  refine ⟨?_, batched_eq_stateBefore reader modulus width, ?_⟩
  · rw [batched_eq_ok hserves hm hcount hpos hle]
  · intro k hk
    have hlt : k * width < reader.count := (lt_blockCount_iff hpos).1 hk
    obtain ⟨before, hstate, hbefore, hwidth⟩ :=
      exists_stateBefore hserves hm hcount hpos hle (Nat.le_of_lt hk)
    refine ⟨before, _, hstate, ?_,
      hbefore.evaluatesBlock hm hle (hserves.count_eq ▸ hlt) hwidth⟩
    rw [stateBefore_succ reader modulus hk, Traced.outcome_bind_of_ok hstate,
      hbefore.batchedBlock_eq hserves hm hpos hlt]

/-- Three pairs in blocks of two: the second block finds the table of the first
one, which has contributed `2 ^ 5 * 3`, that is five by thirteen. -/
theorem batched_reuses_table_two_blocks :
    (NumberPairs.reader ⟨[2, 3, 4], [5, 1, 2]⟩).Serves [2, 3, 4] [5, 1, 2] ∧
      (0 < 3 ∧ 0 < 13 ∧ 1 ≤ 2 ∧ 2 ≤ Window.maxWidth) ∧
      (batched (NumberPairs.reader ⟨[2, 3, 4], [5, 1, 2]⟩) 13 2).outcome = .ok 2 ∧
      1 < blockCount 3 2 ∧
      ∃ before after,
        (stateBefore (NumberPairs.reader ⟨[2, 3, 4], [5, 1, 2]⟩) 13 2 1).outcome = .ok before ∧
        (stateBefore (NumberPairs.reader ⟨[2, 3, 4], [5, 1, 2]⟩) 13 2 2).outcome = .ok after ∧
        EvaluatesBlock [(2, 5), (3, 1), (4, 2)] 13 2 1 before after ∧ before.product = 5 := by
  have hserves : (NumberPairs.reader ⟨[2, 3, 4], [5, 1, 2]⟩).Serves [2, 3, 4] [5, 1, 2] :=
    NumberPairs.serves_reader rfl
  have hsecond : 1 < blockCount 3 2 := by decide
  obtain ⟨hrun, -, hblocks⟩ := batched_reuses_table hserves (show 0 < 3 by decide)
    (show 0 < 13 by decide) (show 1 ≤ 2 by decide) (by decide)
  obtain ⟨before, after, hbefore, hafter, hblock⟩ := hblocks 1 hsecond
  refine ⟨hserves, by decide, hrun.trans ?_, hsecond, before, after, hbefore, hafter, hblock,
    hblock.product_before.trans ?_⟩
  · exact congrArg Except.ok (by decide)
  · decide

end Engine

end PowerProduct
