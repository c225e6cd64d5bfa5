import Mathlib
import PowerProduct.Engine
import PowerProduct.Proofs.ModularProducts
import PowerProduct.Proofs.SweepInvariant

/-!
# Evaluation over blocks

What an evaluation does depends on its reader through the lists it reads alone
(`naive_of_reads`, `singleShot_of_reads`, `batchedBlock_of_reads`). The
blockwise loop is followed by one induction for every invariant
(`batched_of_invariant`); each invariant says at least that the table is wide
enough for the next block (`Ready`). A reader that serves a list of pairs
answers every range with the matching part (`bases_of_serves`,
`exponents_of_serves`). Over such a reader the sweep over all blocks together
(`singleShot_eq_ok`), the sweeps over one block after another (`batched_eq_ok`)
and one power after another (`naive_eq_ok`) all end in the product of powers.
-/

set_option autoImplicit false

namespace PowerProduct

namespace Traced

theorem lift_ok_bind {α β : Type} (a : α) (next : α → Traced β) :
    (liftM (Except.ok a : Outcome α) : Traced α) >>= next = next a := rfl

theorem lift_refuse_bind {α β : Type} (e : Error) (next : α → Traced β) :
    (liftM (refuse e : Outcome α) : Traced α) >>= next = ⟨refuse e, []⟩ := rfl

end Traced

namespace PairReader

variable {reader : PairReader} {pairs : List (Nat × Nat)}

theorem Serves.count_eq (h : reader.Serves (pairs.map Prod.fst) (pairs.map Prod.snd)) :
    reader.count = pairs.length := by
  rw [h.count_bases, List.length_map]

/-- A reader of two lists serves their pairs. -/
theorem Serves.zip {bases exponents : List Nat} (h : reader.Serves bases exponents) :
    reader.Serves ((bases.zip exponents).map Prod.fst) ((bases.zip exponents).map Prod.snd) := by
  have hlen : bases.length = exponents.length := h.count_bases.symm.trans h.count_exponents
  rwa [List.map_fst_zip (Nat.le_of_eq hlen), List.map_snd_zip (Nat.le_of_eq hlen.symm)]

theorem entriesBetween_of_le {α : Type} {xs : List α} {start stop : Nat} (hle : start ≤ stop)
    (hstop : stop ≤ xs.length) :
    entriesBetween xs start stop = .ok ((xs.drop start).take (stop - start)) :=
  if_pos ⟨hle, hstop⟩

section Reads

variable {start stop : Nat} {numbers : List Nat}

theorem readBases_of_ok (h : reader.bases start stop = .ok numbers) :
    reader.readBases start stop = ⟨.ok numbers, [⟨.bases, start, stop⟩]⟩ := by
  rw [readBases, h]
  rfl

theorem readExponents_of_ok (h : reader.exponents start stop = .ok numbers) :
    reader.readExponents start stop = ⟨.ok numbers, [⟨.exponents, start, stop⟩]⟩ := by
  rw [readExponents, h]
  rfl

variable (h : reader.Serves (pairs.map Prod.fst) (pairs.map Prod.snd))
  (hle : start ≤ stop) (hstop : stop ≤ reader.count)
include h hle hstop

theorem bases_of_serves :
    reader.bases start stop = .ok (((pairs.drop start).take (stop - start)).map Prod.fst) := by
  have hrange : stop ≤ (pairs.map Prod.fst).length := h.count_bases ▸ hstop
  rw [h.bases_eq start stop hle hstop, entriesBetween_of_le hle hrange, List.map_take,
    List.map_drop]

theorem exponents_of_serves :
    reader.exponents start stop = .ok (((pairs.drop start).take (stop - start)).map Prod.snd) := by
  have hrange : stop ≤ (pairs.map Prod.snd).length := h.count_exponents ▸ hstop
  rw [h.exponents_eq start stop hle hstop, entriesBetween_of_le hle hrange, List.map_take,
    List.map_drop]

end Reads

/-! The range of all pairs yields the two lists. -/

theorem bases_all (h : reader.Serves (pairs.map Prod.fst) (pairs.map Prod.snd)) :
    reader.bases 0 reader.count = .ok (pairs.map Prod.fst) := by
  rw [bases_of_serves h (Nat.zero_le _) (Nat.le_refl _), List.drop_zero, Nat.sub_zero,
    List.take_of_length_le (Nat.le_of_eq h.count_eq.symm)]

theorem exponents_all (h : reader.Serves (pairs.map Prod.fst) (pairs.map Prod.snd)) :
    reader.exponents 0 reader.count = .ok (pairs.map Prod.snd) := by
  rw [exponents_of_serves h (Nat.zero_le _) (Nat.le_refl _), List.drop_zero, Nat.sub_zero,
    List.take_of_length_le (Nat.le_of_eq h.count_eq.symm)]

/-! The range of a block yields the two sides of the block. -/

section BlockRange

variable (h : reader.Serves (pairs.map Prod.fst) (pairs.map Prod.snd)) {width k : Nat}
  (hk : k * width < reader.count)
include h hk

theorem bases_blockAt :
    reader.bases (k * width) (min (k * width + width) reader.count) =
      .ok ((blockAt width k pairs).map Prod.fst) := by
  rw [bases_of_serves h (by omega) (Nat.min_le_right _ _), h.count_eq, take_drop_eq_blockAt]

theorem exponents_blockAt :
    reader.exponents (k * width) (min (k * width + width) reader.count) =
      .ok ((blockAt width k pairs).map Prod.snd) := by
  rw [exponents_of_serves h (by omega) (Nat.min_le_right _ _), h.count_eq, take_drop_eq_blockAt]

end BlockRange

end PairReader

namespace Engine

open SubsetTable PairReader

/-- The two reads of the pairs from `start` up to `stop`. -/
def couple (start stop : Nat) : List Read := [⟨.bases, start, stop⟩, ⟨.exponents, start, stop⟩]

/-! ## Tables of blocks -/

theorem blockTable_eq_ok {modulus : Nat} (hm : 0 < modulus) {block : List Nat}
    (hpos : 1 ≤ block.length) (hle : block.length ≤ Window.maxWidth) :
    blockTable modulus block = .ok (forBases modulus block) := by
  rw [blockTable, blank_eq_ok hpos hle hm, ok_bind]
  exact after_fill (wellFormed_blank hpos hle hm) rfl

theorem blockTables_eq_ok {modulus width : Nat} (hm : 0 < modulus) (hpos : 1 ≤ width)
    (hle : width ≤ Window.maxWidth) (bases : List Nat) :
    blockTables modulus width bases = .ok ((blocks width bases).map (forBases modulus)) := by
  rw [blockTables, requireBlockWidth_of_pos hpos, ok_bind]
  apply mapM_eq_ok
  intro block hmem
  obtain ⟨hblock, hwidth⟩ := length_of_mem_blocks hpos hmem
  exact blockTable_eq_ok hm hblock (Nat.le_trans hwidth hle)

/-- A table that is wide enough is narrowed to the size of a block. -/
theorem fitTable_eq_ok {table : SubsetTable} (h : table.WellFormed) {size : Nat}
    (hpos : 1 ≤ size) (hle : size ≤ table.width) :
    ∃ fitted, fitTable table size = .ok fitted ∧ fitted.WellFormed ∧ fitted.width = size ∧
      fitted.modulus = table.modulus := by
  by_cases hlt : size < table.width
  · refine ⟨_, ?_, h.narrowed hpos hle, rfl, rfl⟩
    rw [fitTable, if_pos hlt, after, shrink_eq_ok hpos hle]
  · refine ⟨table, if_neg hlt, h, ?_, rfl⟩
    omega

/-! ## Evaluations by what they read -/

theorem requireWindowed_eq_ok {count modulus width : Nat} (hm : 0 < modulus) (hcount : 0 < count)
    (hpos : 1 ≤ width) (hle : width ≤ Window.maxWidth) :
    requireWindowed count modulus width = .ok () := by
  rw [requireWindowed, if_neg hcount.ne', requireModulus_of_pos hm, ok_bind]
  exact Window.requireWidth_eq_ok.2 ⟨hpos, hle⟩

/-- The checks of a windowed evaluation pass or refuse the request. -/
theorem requireWindowed_ok_or_refuse (count modulus width : Nat) :
    (requireWindowed count modulus width = .ok () ∧ 0 < count ∧ 0 < modulus ∧
        1 ≤ width ∧ width ≤ Window.maxWidth) ∨
      ∃ e, requireWindowed count modulus width = refuse e := by
  rw [requireWindowed, requireModulus, Window.requireWidth_eq]
  by_cases hcount : count = 0
  · exact Or.inr ⟨.noPairs, by rw [if_pos hcount, refuse_bind]⟩
  by_cases hm : modulus = 0
  · exact Or.inr ⟨.zeroModulus, by rw [if_neg hcount, if_pos hm]; rfl⟩
  by_cases hwidth : 1 ≤ width ∧ width ≤ Window.maxWidth
  · left
    refine ⟨?_, Nat.pos_of_ne_zero hcount, Nat.pos_of_ne_zero hm, hwidth⟩
    rw [if_neg hcount, if_neg hm, if_pos hwidth]
    rfl
  · exact Or.inr ⟨_, by rw [if_neg hcount, if_neg hm, if_neg hwidth]; rfl⟩

section ByReads

variable {reader : PairReader} {modulus width : Nat}

section Whole

variable {pairs : List (Nat × Nat)}
  (hbases : reader.bases 0 reader.count = .ok (pairs.map Prod.fst))
  (hexponents : reader.exponents 0 reader.count = .ok (pairs.map Prod.snd)) (hm : 0 < modulus)
include hbases hexponents hm

theorem naive_of_reads (hpairs : pairs ≠ []) :
    naive reader modulus = ⟨.ok (productOfPowers pairs % modulus), couple 0 reader.count⟩ := by
  rw [naive, readBases_of_ok hbases, readExponents_of_ok hexponents, Traced.bind_ok,
    Traced.bind_ok, Modular.powerProduct_eq_ok hm hpairs]
  rfl

theorem singleShot_of_reads (hcount : 0 < reader.count) (hpos : 1 ≤ width)
    (hle : width ≤ Window.maxWidth) :
    singleShot reader modulus width =
      ⟨.ok (productOfPowers pairs % modulus), couple 0 reader.count⟩ := by
  rw [singleShot, requireWindowed_eq_ok hm hcount hpos hle, Traced.lift_ok_bind,
    readBases_of_ok hbases, readExponents_of_ok hexponents, Traced.bind_ok, Traced.bind_ok,
    blockTables_eq_ok hm hpos hle, Traced.lift_ok_bind, Sweep.run_eq_ok hm hpos]
  rfl

end Whole

/-- A block fills the table for its bases, and its product multiplies the
product so far. -/
theorem batchedBlock_of_reads {progress : Progress} {start : Nat} {block : List (Nat × Nat)}
    (hm : 0 < modulus)
    (hbases : reader.bases start (min (start + width) reader.count) = .ok (block.map Prod.fst))
    (hexponents : reader.exponents start (min (start + width) reader.count) =
      .ok (block.map Prod.snd))
    (hpos : 1 ≤ block.length) (hle : block.length ≤ width) (hwf : progress.table.WellFormed)
    (hmod : progress.table.modulus = modulus) (hfit : block.length ≤ progress.table.width) :
    batchedBlock reader modulus width progress start =
      ⟨.ok ⟨forBases modulus (block.map Prod.fst),
          progress.product * (productOfPowers block % modulus) % modulus⟩,
        couple start (min (start + width) reader.count)⟩ := by
  have hlen : (block.map Prod.fst).length = block.length := List.length_map _
  obtain ⟨fitted, hfitted, hwf', hwidth, hmod'⟩ :=
    fitTable_eq_ok hwf (hlen ▸ hpos) (hlen ▸ hfit)
  rw [batchedBlock, readBases_of_ok hbases, readExponents_of_ok hexponents, Traced.bind_ok,
    Traced.bind_ok, hfitted, Traced.lift_ok_bind, after_fill hwf' hwidth.symm,
    Traced.lift_ok_bind, hmod', hmod, Sweep.run_block_eq_ok hm hpos hle, Traced.lift_ok_bind,
    Modular.reduce_of_pos hm, Traced.lift_ok_bind]
  rfl

/-! ## The loop over the blocks -/

/-- The reads of the blocks that begin at `starts`. -/
def blockReads (count width : Nat) (starts : List Nat) : List Read :=
  starts.flatMap fun start => couple start (min (start + width) count)

section Loop

variable (Inv : Nat → Progress → Prop) (hpos : 1 ≤ width)
  (hstep : ∀ k progress, k * width < reader.count → Inv k progress →
    ∃ next, batchedBlock reader modulus width progress (k * width) =
        ⟨.ok next, couple (k * width) (min (k * width + width) reader.count)⟩ ∧
      Inv (k + 1) next)
include hpos hstep

/-- If a block carries the invariant on, the loop over the last `count` blocks
reads each of them once and carries it to the end. -/
theorem foldlM_batchedBlock_of_invariant {progress : Progress} {k count : Nat}
    (hk : k + count = blockCount reader.count width) (h : Inv k progress) :
    ∃ last, ((List.range' k count).map (· * width)).foldlM (batchedBlock reader modulus width)
        progress = ⟨.ok last,
          blockReads reader.count width ((List.range' k count).map (· * width))⟩ ∧
      Inv (blockCount reader.count width) last := by
  -- by induction on the number of blocks that are left
  induction count generalizing k progress with
  | zero => exact ⟨progress, rfl, hk ▸ h⟩
  | succ count ih =>
      have hlt : k * width < reader.count := (lt_blockCount_iff hpos).1 (by omega)
      obtain ⟨next, hblock, hnext⟩ := hstep k progress hlt h
      obtain ⟨last, hrest, hlast⟩ := ih (by omega) hnext
      refine ⟨last, ?_, hlast⟩
      rw [List.range'_succ, List.map_cons, List.foldlM_cons, hblock, Traced.bind_ok, hrest]
      rfl

/-- The blockwise evaluation reads every block once. It ends with the product
of a state that the invariant describes, if the invariant holds of a table of
zeros and the product one. -/
theorem batched_of_invariant (hm : 0 < modulus) (hcount : 0 < reader.count)
    (hle : width ≤ Window.maxWidth)
    (hblank : Inv 0 ⟨⟨min width reader.count, modulus,
      Array.replicate (2 ^ min width reader.count) 0⟩, 1 % modulus⟩) :
    ∃ last, batched reader modulus width =
        ⟨.ok last.product, blockReads reader.count width (blockStarts reader.count width)⟩ ∧
      Inv (blockCount reader.count width) last := by
  have hmin : 1 ≤ min width reader.count := by omega
  have hmax : min width reader.count ≤ Window.maxWidth := by omega
  obtain ⟨last, hloop, hlast⟩ :=
    foldlM_batchedBlock_of_invariant Inv hpos hstep (Nat.zero_add _) hblank
  refine ⟨last, ?_, hlast⟩
  rw [batched, requireWindowed_eq_ok hm hcount hpos hle, Traced.lift_ok_bind,
    blank_eq_ok hmin hmax hm, Traced.lift_ok_bind, Modular.reduce_of_pos hm, Traced.lift_ok_bind,
    requireBlockWidth_of_pos hpos, Traced.lift_ok_bind, blockStarts, List.range_eq_range', hloop,
    Traced.bind_ok]
  show (⟨_, _ ++ []⟩ : Traced Nat) = _
  rw [List.append_nil]
  rfl

end Loop

end ByReads

/-- A table by `modulus` that is wide enough for the next block of the `left`
pairs that are left. -/
structure Ready (modulus width left : Nat) (table : SubsetTable) : Prop where
  wellFormed : table.WellFormed
  modulus_eq : table.modulus = modulus
  fits : min width left ≤ table.width

theorem ready_blank {modulus width left : Nat} (hm : 0 < modulus) (hpos : 1 ≤ min width left)
    (hle : min width left ≤ Window.maxWidth) :
    Ready modulus width left
      ⟨min width left, modulus, Array.replicate (2 ^ min width left) 0⟩ where
  wellFormed := wellFormed_blank hpos hle hm
  modulus_eq := rfl
  fits := Nat.le_refl _

/-- Only the last block is shorter than the width, so the table of block `k` is
wide enough for the block after it. -/
theorem ready_block {modulus width count k : Nat} {block : List (Nat × Nat)} (hm : 0 < modulus)
    (hpos : 1 ≤ width) (hle : width ≤ Window.maxWidth) (hk : k * width < count)
    (hlen : block.length = min width (count - k * width)) :
    Ready modulus width (count - (k + 1) * width) (forBases modulus (block.map Prod.fst)) := by
  have hsize : (block.map Prod.fst).length = min width (count - k * width) :=
    (List.length_map _).trans hlen
  refine ⟨wellFormed_forBases (by omega) (by omega) hm, rfl, ?_⟩
  show min width (count - (k + 1) * width) ≤ (block.map Prod.fst).length
  rw [hsize, Nat.succ_mul]
  omega

/-! ## The states of the blockwise loop -/

/-- The state of the blockwise loop before block `k`: the table is wide enough
for the block, and the product is that of the pairs before it. -/
structure BeforeBlock (pairs : List (Nat × Nat)) (modulus width k : Nat) (progress : Progress) :
    Prop where
  wellFormed : progress.table.WellFormed
  modulus_eq : progress.table.modulus = modulus
  fits : min width (pairs.length - k * width) ≤ progress.table.width
  product_eq : progress.product = productOfPowers (pairs.take (k * width)) % modulus

/-- What block `k` makes of the product so far: the table of the block, and the
product with the block's own. -/
def nextProgress (pairs : List (Nat × Nat)) (modulus width k product : Nat) : Progress :=
  ⟨forBases modulus ((blockAt width k pairs).map Prod.fst),
    product * (productOfPowers (blockAt width k pairs) % modulus) % modulus⟩

section States

variable {pairs : List (Nat × Nat)} {modulus width : Nat} (hm : 0 < modulus) (hpos : 1 ≤ width)
  (hle : width ≤ Window.maxWidth)
include hm hpos hle

/-- At first there is a table of zeros, and the product one. -/
theorem beforeBlock_zero (hcount : 0 < pairs.length) :
    BeforeBlock pairs modulus width 0 ⟨⟨min width pairs.length, modulus,
      Array.replicate (2 ^ min width pairs.length) 0⟩, 1 % modulus⟩ := by
  refine ⟨wellFormed_blank (by omega) (by omega) hm, rfl, ?_, ?_⟩
  · rw [Nat.zero_mul, Nat.sub_zero]
  · rw [Nat.zero_mul, List.take_zero, productOfPowers_nil]

/-- A block leaves a table that is wide enough for the next one. -/
theorem BeforeBlock.next {progress : Progress} {k : Nat} (hk : k * width < pairs.length)
    (hbefore : BeforeBlock pairs modulus width k progress) :
    BeforeBlock pairs modulus width (k + 1)
      (nextProgress pairs modulus width k progress.product) := by
  have hready := ready_block hm hpos hle hk (length_blockAt width k pairs)
  refine ⟨hready.wellFormed, hready.modulus_eq, hready.fits, ?_⟩
  rw [nextProgress, hbefore.product_eq, ← Nat.mul_mod, ← productOfPowers_take_succ_mul]

end States

/-! ## Readers that serve a list of pairs -/

section Strategies

variable {reader : PairReader} {pairs : List (Nat × Nat)} {modulus width : Nat}
  (h : reader.Serves (pairs.map Prod.fst) (pairs.map Prod.snd)) (hm : 0 < modulus)
include h hm

theorem naive_eq_ok (hcount : 0 < reader.count) :
    naive reader modulus = ⟨.ok (productOfPowers pairs % modulus), couple 0 reader.count⟩ := by
  apply naive_of_reads (bases_all h) (exponents_all h) hm
  rw [h.count_eq] at hcount
  exact List.ne_nil_of_length_pos hcount

theorem singleShot_eq_ok (hcount : 0 < reader.count) (hpos : 1 ≤ width)
    (hle : width ≤ Window.maxWidth) :
    singleShot reader modulus width =
      ⟨.ok (productOfPowers pairs % modulus), couple 0 reader.count⟩ :=
  singleShot_of_reads (bases_all h) (exponents_all h) hm hcount hpos hle

/-- A block of the loop, from a state that is ready for it. -/
theorem BeforeBlock.batchedBlock_eq {progress : Progress} {k : Nat} (hpos : 1 ≤ width)
    (hk : k * width < reader.count) (hbefore : BeforeBlock pairs modulus width k progress) :
    batchedBlock reader modulus width progress (k * width) =
      ⟨.ok (nextProgress pairs modulus width k progress.product),
        couple (k * width) (min (k * width + width) reader.count)⟩ := by
  have hcount := h.count_eq
  have hlen := length_blockAt width k pairs
  exact batchedBlock_of_reads hm (bases_blockAt h hk) (exponents_blockAt h hk) (by omega)
    (by omega) hbefore.wellFormed hbefore.modulus_eq (hlen ▸ hbefore.fits)

theorem batched_eq_ok (hcount : 0 < reader.count) (hpos : 1 ≤ width)
    (hle : width ≤ Window.maxWidth) :
    batched reader modulus width =
      ⟨.ok (productOfPowers pairs % modulus),
        blockReads reader.count width (blockStarts reader.count width)⟩ := by
  have hblank : BeforeBlock pairs modulus width 0 _ :=
    beforeBlock_zero hm hpos hle (h.count_eq ▸ hcount)
  rw [← h.count_eq] at hblank
  obtain ⟨last, hrun, hlast⟩ :=
    batched_of_invariant (BeforeBlock pairs modulus width) hpos
      (fun k _ hk hbefore => ⟨_, hbefore.batchedBlock_eq h hm hpos hk,
        hbefore.next hm hpos hle (h.count_eq ▸ hk)⟩) hm hcount hle hblank
  -- the blocks reach the end of the request
  have hend : pairs.length ≤ blockCount reader.count width * width := by
    rw [← h.count_eq, ← Nat.not_lt, ← lt_blockCount_iff hpos]
    exact Nat.lt_irrefl _
  rw [hrun, hlast.product_eq, List.take_of_length_le hend]

end Strategies

end Engine

end PowerProduct
