import Mathlib
import PowerProduct.Proofs.Encoding
import PowerProduct.Proofs.ProductOfPowers
import PowerProduct.Proofs.TableFilling

/-!
# The invariant of the sweep

Over tables that were filled for the blocks of a request, the accumulator of
the sweep after the bits down to `low` is the product of the powers whose
exponents are divided by `2 ^ low` (`between_eq_ok`). It starts above the
longest exponent, where the product is one (`between_top_eq_ok`), and ends at
bit zero with the product of the powers themselves (`run_eq_ok`, and
`run_block_eq_ok` for a single block). The work at one bit is described for the
loop that passes over no block, which does the same
(`multiplyEntries_eq_multiplyEveryEntry`). The main statement `sweep_accumulates`
has the states of a whole run, for tables that were filled in any way.
-/

set_option autoImplicit false

namespace PowerProduct.Sweep

open SubsetTable

/-- A block with the table of its bases. -/
def tabulated (modulus : Nat) (block : List (Nat × Nat)) : SubsetTable × List Nat :=
  (forBases modulus (block.map Prod.fst), block.map Prod.snd)

theorem positions_succ (low count : Nat) :
    positions low (low + (count + 1)) = positions (low + 1) (low + 1 + count) ++ [low] := by
  have hleft : low + (count + 1) - low = count + 1 := by omega
  have hright : low + 1 + count - (low + 1) = count := by omega
  rw [positions, positions, hleft, hright, List.range'_succ, List.reverse_cons]

/-- The accumulator times one table entry for each block, with the entry of the
empty subset where no exponent of the block has the bit. -/
def multiplyEveryEntry (modulus index : Nat) (parts : List (SubsetTable × List Nat)) (acc : Nat) :
    Outcome Nat :=
  parts.foldlM (fun acc part => do
    Modular.reduce (acc * (← part.1.entry (bitColumn part.2 index))) modulus) acc

/-- A bit column selects the product of the bases that have the bit. -/
theorem entry_tabulated (modulus index : Nat) (block : List (Nat × Nat)) :
    (tabulated modulus block).1.entry (bitColumn (tabulated modulus block).2 index) =
      .ok (productOfPowers (exponentBits index block) % modulus) := by
  have hmask : bitColumn (block.map Prod.snd) index < 2 ^ (block.map Prod.fst).length := by
    have hlt := bitColumn_lt (block.map Prod.snd) index
    rwa [List.length_map] at hlt ⊢
  rw [tabulated, entry_forBases hmask, subsetProduct_bitColumn]

section Bits

variable {modulus : Nat} (hm : 0 < modulus)
include hm

/-- To pass over a block with an empty column is to multiply by the empty
product. -/
theorem multiplyEntries_eq_multiplyEveryEntry (index : Nat) (parts : List (List (Nat × Nat)))
    (x : Nat) :
    multiplyEntries modulus index (parts.map (tabulated modulus)) (x % modulus) =
      multiplyEveryEntry modulus index (parts.map (tabulated modulus)) (x % modulus) := by
  induction parts generalizing x with
  | nil => rfl
  | cons block rest ih =>
      have hentry := entry_tabulated modulus index block
      simp only [multiplyEveryEntry] at ih ⊢
      rw [List.map_cons, List.foldlM_cons, hentry, ok_bind, Modular.reduce_of_pos hm, ok_bind,
        ← Nat.mul_mod, ← ih, tabulated, multiplyEntries]
      by_cases hzero : bitColumn (block.map Prod.snd) index = 0
      · have hone : productOfPowers (exponentBits index block) = 1 := by
          rw [← subsetProduct_bitColumn, hzero, subsetProduct_zero]
        rw [hone, mul_one]
        exact if_pos hzero
      · rw [tabulated] at hentry
        simp only [if_neg hzero]
        rw [hentry, ok_bind, Modular.reduce_of_pos hm, ok_bind, ← Nat.mul_mod]

/-- The entries at bit `index` multiply the accumulator by the bases that have
the bit. -/
theorem multiplyEveryEntry_eq_ok (index : Nat) (parts : List (List (Nat × Nat))) (x : Nat) :
    multiplyEveryEntry modulus index (parts.map (tabulated modulus)) (x % modulus) =
      .ok (x * productOfPowers (exponentBits index parts.flatten) % modulus) := by
  induction parts generalizing x with
  | nil => simp [multiplyEveryEntry, exponentBits, pure, Except.pure]
  | cons block rest ih =>
      have hfactor : productOfPowers (exponentBits index (block :: rest).flatten) =
          productOfPowers (exponentBits index block) *
            productOfPowers (exponentBits index rest.flatten) := by
        rw [← productOfPowers_append]
        simp [exponentBits]
      simp only [multiplyEveryEntry] at ih ⊢
      rw [hfactor, List.map_cons, List.foldlM_cons, entry_tabulated, ok_bind,
        Modular.reduce_of_pos hm, ok_bind, ← Nat.mul_mod, ih, mul_assoc]

/-- The work at one bit carries the accumulator from the exponents above the
bit to those with it. -/
theorem atBit_eq_ok (index : Nat) (parts : List (List (Nat × Nat))) :
    atBit (parts.map (tabulated modulus)) modulus
        (productOfPowers (shiftExponents (index + 1) parts.flatten) % modulus) index =
      .ok (productOfPowers (shiftExponents index parts.flatten) % modulus) := by
  rw [atBit, Modular.reduce_of_pos hm, ok_bind, ← Nat.mul_mod,
    multiplyEntries_eq_multiplyEveryEntry hm, multiplyEveryEntry_eq_ok hm,
    productOfPowers_shiftExponents index]

/-- From the accumulator above the bits, the sweep over `count` bits down to
`low` gives the product with the exponents divided by `2 ^ low`. -/
theorem between_eq_ok (low count : Nat) (parts : List (List (Nat × Nat))) :
    between (parts.map (tabulated modulus)) modulus low (low + count)
        (productOfPowers (shiftExponents (low + count) parts.flatten) % modulus) =
      .ok (productOfPowers (shiftExponents low parts.flatten) % modulus) := by
  -- the bit at `low` is the last one, so the bits above it come first
  induction count generalizing low with
  | zero => simp [between, positions, pure, Except.pure]
  | succ count ih =>
      have hnext := ih (low + 1)
      rw [between] at hnext ⊢
      have hhigh : low + (count + 1) = low + 1 + count := by omega
      rw [positions_succ, List.foldlM_append, hhigh, hnext, ok_bind, List.foldlM_cons,
        atBit_eq_ok hm, ok_bind, List.foldlM_nil]
      rfl

end Bits

theorem bitLength_le_maxBitLength {exponents : List Nat} {exponent : Nat}
    (h : exponent ∈ exponents) : bitLength exponent ≤ maxBitLength exponents := by
  -- the maximum so far is generalized, since the fold starts at zero
  have hfold : ∀ (list : List Nat) (bits : Nat),
      bits ≤ list.foldl (fun bits e => max bits (bitLength e)) bits ∧
        ∀ e ∈ list, bitLength e ≤ list.foldl (fun bits e => max bits (bitLength e)) bits := by
    intro list
    induction list with
    | nil => exact fun bits => ⟨Nat.le_refl bits, fun e he => absurd he List.not_mem_nil⟩
    | cons first rest ih =>
        intro bits
        obtain ⟨hstart, hrest⟩ := ih (max bits (bitLength first))
        refine ⟨Nat.le_trans (Nat.le_max_left _ _) hstart, ?_⟩
        intro e he
        rcases List.mem_cons.1 he with rfl | hmem
        · exact Nat.le_trans (Nat.le_max_right _ _) hstart
        · exact hrest e hmem
  exact (hfold exponents 0).2 exponent h

theorem lt_two_pow_maxBitLength {pairs : List (Nat × Nat)} :
    ∀ pair ∈ pairs, pair.2 < 2 ^ maxBitLength (pairs.map Prod.snd) := by
  intro pair hpair
  exact (bitLength_le_iff _ _).1 (bitLength_le_maxBitLength (List.mem_map_of_mem hpair))

/-- From the bit length of the longest exponent down to bit `index` the
accumulator becomes the product with the exponents divided by `2 ^ index`. -/
theorem between_top_eq_ok {modulus : Nat} (hm : 0 < modulus) (parts : List (List (Nat × Nat)))
    (index : Nat) :
    between (parts.map (tabulated modulus)) modulus index
        (maxBitLength (parts.flatten.map Prod.snd)) (1 % modulus) =
      .ok (productOfPowers (shiftExponents index parts.flatten) % modulus) := by
  rcases Nat.le_total index (maxBitLength (parts.flatten.map Prod.snd)) with hle | hge
  · obtain ⟨count, hcount⟩ := Nat.exists_eq_add_of_le hle
    have hsweep := between_eq_ok hm index count parts
    rwa [← hcount, productOfPowers_shiftExponents_eq_one lt_two_pow_maxBitLength] at hsweep
  · -- above the longest exponent there is nothing to sweep over
    have hshort : ∀ pair ∈ parts.flatten, pair.2 < 2 ^ index := fun pair hmem =>
      Nat.lt_of_lt_of_le (lt_two_pow_maxBitLength pair hmem) (Nat.pow_le_pow_right (by decide) hge)
    rw [productOfPowers_shiftExponents_eq_one hshort, between, positions,
      Nat.sub_eq_zero_of_le hge]
    rfl

/-- The blocks of the bases, tabulated, stand beside the blocks of the exponents. -/
theorem zip_blocks_eq_tabulated (modulus width : Nat) (pairs : List (Nat × Nat)) :
    ((blocks width (pairs.map Prod.fst)).map (forBases modulus)).zip
        (blocks width (pairs.map Prod.snd)) =
      (blocks width pairs).map (tabulated modulus) := by
  rw [blocks_map, blocks_map, List.map_map, List.zip_map']
  rfl

/-- With one table for each block, the run is the sweep over all bits. -/
theorem run_eq_between {modulus width : Nat} (hm : 0 < modulus) (hw : 0 < width)
    (pairs : List (Nat × Nat)) :
    run ((blocks width (pairs.map Prod.fst)).map (forBases modulus)) (pairs.map Prod.snd) width
        modulus =
      between ((blocks width pairs).map (tabulated modulus)) modulus 0
        (maxBitLength (pairs.map Prod.snd)) (1 % modulus) := by
  have hcount : ((blocks width (pairs.map Prod.fst)).map (forBases modulus)).length =
      blockCount (pairs.map Prod.snd).length width := by
    rw [List.length_map, length_blocks hw, List.length_map, List.length_map]
  rw [run, requireBlockWidth_of_pos hw, ok_bind, if_neg (not_not.2 hcount),
    Modular.reduce_of_pos hm, ok_bind, zip_blocks_eq_tabulated]

/-- The sweep over the tables of all blocks computes the product of powers. -/
theorem run_eq_ok {modulus width : Nat} (hm : 0 < modulus) (hw : 0 < width)
    (pairs : List (Nat × Nat)) :
    run ((blocks width (pairs.map Prod.fst)).map (forBases modulus)) (pairs.map Prod.snd) width
        modulus = .ok (productOfPowers pairs % modulus) := by
  have hsweep := between_top_eq_ok hm (blocks width pairs) 0
  rw [flatten_blocks, shiftExponents_zero] at hsweep
  rw [run_eq_between hm hw, hsweep]

/-- A single block is a request of its own. -/
theorem run_block_eq_ok {modulus width : Nat} (hm : 0 < modulus) {block : List (Nat × Nat)}
    (hpos : 1 ≤ block.length) (hle : block.length ≤ width) :
    run [forBases modulus (block.map Prod.fst)] (block.map Prod.snd) width modulus =
      .ok (productOfPowers block % modulus) := by
  have hlen : (block.map Prod.fst).length = block.length := List.length_map _
  have hone : blocks width (block.map Prod.fst) = [block.map Prod.fst] :=
    blocks_eq_singleton (List.ne_nil_of_length_pos (hlen ▸ hpos)) (hlen ▸ hle)
  have hrun := run_eq_ok hm (Nat.le_trans hpos hle) block
  rwa [hone] at hrun

/-! ## The states of the sweep -/

/-- Table by table, the tables were filled for the blocks, from tables by
`modulus` that may have held anything before. -/
def FilledFor (modulus : Nat) (tables : List SubsetTable) (parts : List (List Nat)) : Prop :=
  List.Forall₂ (fun table block => ∃ before : SubsetTable, before.WellFormed ∧
    before.modulus = modulus ∧ before.after (fill block) = .ok table) tables parts

theorem FilledFor.eq_map {modulus : Nat} {tables : List SubsetTable} {parts : List (List Nat)}
    (h : FilledFor modulus tables parts) : tables = parts.map (forBases modulus) := by
  induction h with
  | nil => rfl
  | cons hfilled _ ih =>
      obtain ⟨before, hwf, rfl, hfill⟩ := hfilled
      rw [eq_forBases_of_after_fill hwf hfill, ih, List.map_cons]

/-- The tables that are made afresh for the blocks were filled for them. -/
theorem filledFor_blocks {modulus width : Nat} (hm : 0 < modulus) (hpos : 1 ≤ width)
    (hle : width ≤ Window.maxWidth) (bases : List Nat) :
    FilledFor modulus ((blocks width bases).map (forBases modulus)) (blocks width bases) := by
  rw [FilledFor, List.forall₂_map_left_iff, List.forall₂_same]
  intro block hmem
  obtain ⟨hblock, hwidth⟩ := length_of_mem_blocks hpos hmem
  have hblank := wellFormed_blank hblock (Nat.le_trans hwidth hle) hm
  exact ⟨_, hblank, rfl, after_fill hblank rfl⟩

/-- The bits below `high` are those down to `mid`, and then those down to `low`. -/
theorem positions_append {low mid high : Nat} (hlow : low ≤ mid) (hhigh : mid ≤ high) :
    positions low high = positions mid high ++ positions low mid := by
  have hmid : low + (mid - low) = mid := by omega
  have hsum : mid - low + (high - mid) = high - low := by omega
  rw [positions, positions, positions, ← List.reverse_append, ← hsum, ← List.range'_append_1, hmid]

/-- The sweep can stop at a bit and go on from the accumulator there. -/
theorem between_eq_bind (parts : List (SubsetTable × List Nat)) (modulus acc : Nat)
    {low mid high : Nat} (hlow : low ≤ mid) (hhigh : mid ≤ high) :
    between parts modulus low high acc = (do
      between parts modulus low mid (← between parts modulus mid high acc)) := by
  rw [between, positions_append hlow hhigh, List.foldlM_append]
  rfl

/-- Over tables that were filled for the blocks of the bases, the sweep goes
through the products with the exponents divided by the powers of two: from one,
above the longest exponent, to the product of the powers themselves, always by
the modulus. Without pairs that is one by the modulus. Blocks that are passed
over make no difference at any bit, whatever the accumulator. -/
theorem sweep_accumulates {modulus width : Nat} (hm : 0 < modulus) (hpos : 1 ≤ width)
    {bases exponents : List Nat} (hlen : bases.length = exponents.length)
    {tables : List SubsetTable} (htables : FilledFor modulus tables (blocks width bases)) :
    let parts := tables.zip (blocks width exponents)
    let top := maxBitLength exponents
    (∀ index, ∃ acc, between parts modulus index top (1 % modulus) = .ok acc ∧
      acc = productOfPowers (shiftExponents index (bases.zip exponents)) % modulus ∧
      acc < modulus) ∧
    (∀ index ≤ top, run tables exponents width modulus = (do
      between parts modulus 0 index (← between parts modulus index top (1 % modulus)))) ∧
    (∃ result, run tables exponents width modulus = .ok result ∧
      result = productOfPowers (bases.zip exponents) % modulus ∧ result < modulus) ∧
    (exponents = [] → run tables exponents width modulus = .ok (1 % modulus)) ∧
    ∀ index acc, atBit parts modulus acc index = (do
      multiplyEveryEntry modulus index parts (← Modular.reduce (acc * acc) modulus)) := by
  intro parts top
  -- the request as a list of pairs
  obtain ⟨pairs, hfst, hsnd, hzip⟩ : ∃ pairs : List (Nat × Nat), bases = pairs.map Prod.fst ∧
      exponents = pairs.map Prod.snd ∧ bases.zip exponents = pairs :=
    ⟨bases.zip exponents, (List.map_fst_zip hlen.le).symm, (List.map_snd_zip hlen.ge).symm, rfl⟩
  have hparts : parts = (blocks width pairs).map (tabulated modulus) := by
    rw [← zip_blocks_eq_tabulated, ← hfst, ← hsnd, ← htables.eq_map]
  have hrun : run tables exponents width modulus = between parts modulus 0 top (1 % modulus) := by
    rw [htables.eq_map, hparts, hfst, hsnd, run_eq_between hm hpos, ← hsnd]
  have hstate : ∀ index, between parts modulus index top (1 % modulus) =
      .ok (productOfPowers (shiftExponents index pairs) % modulus) := by
    intro index
    have hsweep := between_top_eq_ok hm (blocks width pairs) index
    rwa [flatten_blocks, ← hparts, ← hsnd] at hsweep
  have hresult := hrun.trans (hstate 0)
  rw [shiftExponents_zero] at hresult
  rw [hzip]
  refine ⟨fun index => ⟨_, hstate index, rfl, Nat.mod_lt _ hm⟩, ?_,
    ⟨_, hresult, rfl, Nat.mod_lt _ hm⟩, ?_, ?_⟩
  · intro index hindex
    rw [hrun, between_eq_bind parts modulus (1 % modulus) (Nat.zero_le index) hindex]
  · intro hnone
    obtain rfl : pairs = [] := List.map_eq_nil_iff.1 (hsnd.symm.trans hnone)
    exact hresult
  · intro index acc
    rw [atBit, Modular.reduce_of_pos hm, ok_bind, ok_bind, hparts]
    exact multiplyEntries_eq_multiplyEveryEntry hm index _ _

/-- Three pairs in blocks of two, with exponents of three, one and two bits:
after the bits above the lowest the accumulator is `2 ^ 2 * 4` by thirteen, and
at the end `2 ^ 5 * 3 * 4 ^ 2`; and no pairs at all. -/
theorem sweep_accumulates_two_blocks :
    (0 < 13 ∧ 1 ≤ 2 ∧ [2, 3, 4].length = [5, 1, 2].length) ∧
      FilledFor 13 ((blocks 2 [2, 3, 4]).map (forBases 13)) (blocks 2 [2, 3, 4]) ∧
      between (((blocks 2 [2, 3, 4]).map (forBases 13)).zip (blocks 2 [5, 1, 2])) 13 1
        (maxBitLength [5, 1, 2]) 1 = .ok 3 ∧
      run ((blocks 2 [2, 3, 4]).map (forBases 13)) [5, 1, 2] 2 13 = .ok 2 ∧
      FilledFor 13 ((blocks 2 []).map (forBases 13)) (blocks 2 []) ∧
      run ((blocks 2 []).map (forBases 13)) [] 2 13 = .ok 1 := by
  have hlen : [2, 3, 4].length = [5, 1, 2].length := rfl
  have hfilled := filledFor_blocks (show 0 < 13 by decide) (show 1 ≤ 2 by decide) (by decide)
    [2, 3, 4]
  have hnone := filledFor_blocks (show 0 < 13 by decide) (show 1 ≤ 2 by decide) (by decide) []
  obtain ⟨hstate, -, ⟨result, hrun, hresult, -⟩, -, -⟩ :=
    sweep_accumulates (show 0 < 13 by decide) (show 1 ≤ 2 by decide) hlen hfilled
  obtain ⟨-, -, -, hempty, -⟩ :=
    sweep_accumulates (show 0 < 13 by decide) (show 1 ≤ 2 by decide) rfl hnone
  obtain ⟨acc, hsweep, hacc, -⟩ := hstate 1
  refine ⟨by decide, hfilled, hsweep.trans ?_, hrun.trans ?_, hnone, hempty rfl⟩
  · rw [hacc]
    exact congrArg Except.ok (by decide)
  · rw [hresult]
    exact congrArg Except.ok (by decide)

end PowerProduct.Sweep
