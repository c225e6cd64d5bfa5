import Mathlib
import PowerProduct.Proofs.BlockwiseEvaluation

/-!
# What an evaluation reads

An evaluation reads no pair before its checks have passed, and after them it
cannot fail (`Evaluation.run_cases`). Its reads then come in couples, the
bases and the exponents of one range, and the ranges tile the request: none is
empty, and each begins where the one before it ends (`Tiles`). So every pair is
read once on each side. The reader need not hold a fixed list of pairs; it is
enough that it answers every range inside the request
(`PairReader.ServesRanges`). The main statement is `reads_tile_or_are_empty`.
-/

set_option autoImplicit false

namespace PowerProduct

/-! ## Readers that answer every range -/

namespace PairReader

/-- The reader yields as many bases and as many exponents as a range has pairs,
for every range inside the request. Two ranges that share a pair may disagree
on it. -/
structure ServesRanges (reader : PairReader) : Prop where
  bases_ok : ∀ start stop, start ≤ stop → stop ≤ reader.count →
    ∃ numbers, reader.bases start stop = .ok numbers ∧ numbers.length = stop - start
  exponents_ok : ∀ start stop, start ≤ stop → stop ≤ reader.count →
    ∃ numbers, reader.exponents start stop = .ok numbers ∧ numbers.length = stop - start

theorem length_entriesBetween {α : Type} {xs : List α} {start stop : Nat} (hle : start ≤ stop)
    (hstop : stop ≤ xs.length) :
    ∃ entries, entriesBetween xs start stop = .ok entries ∧ entries.length = stop - start := by
  refine ⟨_, entriesBetween_of_le hle hstop, ?_⟩
  rw [List.length_take, List.length_drop]
  omega

/-- A reader of two lists answers every range. -/
theorem Serves.servesRanges {reader : PairReader} {bases exponents : List Nat}
    (h : reader.Serves bases exponents) : reader.ServesRanges where
  bases_ok start stop hle hstop := by
    rw [h.bases_eq start stop hle hstop]
    exact length_entriesBetween hle (h.count_bases ▸ hstop)
  exponents_ok start stop hle hstop := by
    rw [h.exponents_eq start stop hle hstop]
    exact length_entriesBetween hle (h.count_exponents ▸ hstop)

/-- What a range yields is a list of pairs. -/
theorem ServesRanges.exists_pairs {reader : PairReader} (h : reader.ServesRanges)
    {start stop : Nat} (hle : start ≤ stop) (hstop : stop ≤ reader.count) :
    ∃ pairs : List (Nat × Nat), pairs.length = stop - start ∧
      reader.bases start stop = .ok (pairs.map Prod.fst) ∧
      reader.exponents start stop = .ok (pairs.map Prod.snd) := by
  obtain ⟨bases, hbases, hlen⟩ := h.bases_ok start stop hle hstop
  obtain ⟨exponents, hexponents, hlen'⟩ := h.exponents_ok start stop hle hstop
  refine ⟨bases.zip exponents, ?_, ?_, ?_⟩
  · rw [List.length_zip, hlen, hlen', Nat.min_self]
  · rw [List.map_fst_zip (by omega)]
    exact hbases
  · rw [List.map_snd_zip (by omega)]
    exact hexponents

end PairReader

namespace Engine

open SubsetTable PairReader

/-! ## Ranges and their reads -/

/-- The ranges follow one another from a start to a stop: none is empty, and
each begins where the one before it ends. -/
inductive Tiles : Nat → List (Nat × Nat) → Nat → Prop where
  | nil (stop : Nat) : Tiles stop [] stop
  | cons {start next stop : Nat} {rest : List (Nat × Nat)} (h : start < next)
      (hrest : Tiles next rest stop) : Tiles start ((start, next) :: rest) stop

theorem Tiles.le {start stop : Nat} {ranges : List (Nat × Nat)} (h : Tiles start ranges stop) :
    start ≤ stop := by
  induction h with
  | nil stop => exact Nat.le_refl stop
  | cons h _ ih => exact Nat.le_trans (Nat.le_of_lt h) ih

/-- A range that is not empty tiles itself. -/
theorem tiles_singleton {start stop : Nat} (h : start < stop) : Tiles start [(start, stop)] stop :=
  .cons h (.nil stop)

/-- The reads of a list of ranges, two for each. -/
def couples (ranges : List (Nat × Nat)) : List Read :=
  ranges.flatMap fun range => couple range.1 range.2

/-- The positions of the pairs that one side of the reads asks for, in the
order of the reads. -/
def positionsRead (side : Side) (reads : List Read) : List Nat :=
  reads.flatMap fun read =>
    if read.side = side then List.range' read.start (read.stop - read.start) else []

theorem positionsRead_append (side : Side) (reads reads' : List Read) :
    positionsRead side (reads ++ reads') =
      positionsRead side reads ++ positionsRead side reads' :=
  List.flatMap_append

/-- A couple asks for its range once on each side. -/
theorem positionsRead_couple (side : Side) (start stop : Nat) :
    positionsRead side (couple start stop) = List.range' start (stop - start) := by
  cases side <;> simp [positionsRead, couple]

/-- Ranges that tile a range ask for each of its positions once, in order. -/
theorem Tiles.positionsRead_couples {start stop : Nat} {ranges : List (Nat × Nat)}
    (h : Tiles start ranges stop) (side : Side) :
    positionsRead side (couples ranges) = List.range' start (stop - start) := by
  induction h with
  | nil stop =>
      rw [Nat.sub_self]
      rfl
  | @cons start next stop rest h hrest ih =>
      -- the ranges after the first one begin where it ends
      have hnext : next = start + (next - start) := by omega
      have hsum : next - start + (stop - next) = stop - start := by
        have hle := hrest.le
        omega
      calc positionsRead side (couples ((start, next) :: rest))
          = List.range' start (next - start) ++ List.range' next (stop - next) := by
            rw [couples, List.flatMap_cons, positionsRead_append, positionsRead_couple]
            exact congrArg _ ih
        _ = List.range' start (next - start) ++
              List.range' (start + (next - start)) (stop - next) := by rw [← hnext]
        _ = List.range' start (stop - start) := by rw [List.range'_append_1, hsum]

/-! ## The ranges of the blocks -/

/-- The ranges of the blocks of `width` pairs. -/
def blockRanges (count width : Nat) : List (Nat × Nat) :=
  (List.range (blockCount count width)).map fun k => (k * width, min ((k + 1) * width) count)

theorem length_blockRanges (count width : Nat) :
    (blockRanges count width).length = count ⌈/⌉ width := by
  rw [blockRanges, List.length_map, List.length_range, Nat.ceilDiv_eq_add_pred_div, blockCount]

/-- The reads of the blockwise evaluation are the couples of its blocks. -/
theorem blockReads_eq_couples (count width : Nat) :
    blockReads count width (blockStarts count width) = couples (blockRanges count width) := by
  rw [blockReads, blockStarts, couples, blockRanges, List.flatMap_map, List.flatMap_map]
  simp only [Nat.succ_mul]

/-- The blocks from `k` on tile what is left of the request. -/
theorem tiles_blocks {count width k left : Nat} (hpos : 1 ≤ width)
    (hk : k + left = blockCount count width) :
    Tiles (min (k * width) count)
      ((List.range' k left).map fun k => (k * width, min ((k + 1) * width) count)) count := by
  -- by induction on the number of blocks that are left
  induction left generalizing k with
  | zero =>
      have hend : ¬ k * width < count := by
        rw [← lt_blockCount_iff hpos]
        omega
      rw [Nat.min_eq_right (Nat.not_lt.1 hend)]
      exact .nil count
  | succ left ih =>
      have hlt : k * width < count := (lt_blockCount_iff hpos).1 (by omega)
      rw [List.range'_succ, List.map_cons, Nat.min_eq_left (Nat.le_of_lt hlt)]
      refine .cons ?_ (ih (by omega))
      rw [Nat.succ_mul]
      omega

theorem tiles_blockRanges {count width : Nat} (hpos : 1 ≤ width) :
    Tiles 0 (blockRanges count width) count := by
  have h := tiles_blocks hpos (Nat.zero_add (blockCount count width))
  rwa [Nat.zero_mul, Nat.zero_min, ← List.range_eq_range'] at h

/-- A block has `width` pairs, and only the last one may have fewer. -/
theorem getElem?_blockRanges {count width k start stop : Nat}
    (h : (blockRanges count width)[k]? = some (start, stop)) :
    start = k * width ∧ stop = min ((k + 1) * width) count ∧ stop - start ≤ width ∧
      (k + 1 < (blockRanges count width).length → stop - start = width) := by
  obtain ⟨hk, hrange⟩ := List.getElem?_eq_some_iff.1 h
  have hlen : (blockRanges count width).length = blockCount count width := by
    rw [blockRanges, List.length_map, List.length_range]
  rw [hlen] at hk ⊢
  -- without a width there are no blocks
  have hpos : 0 < width := by
    refine Nat.pos_of_ne_zero ?_
    rintro rfl
    simp [blockCount] at hk
  simp only [blockRanges, List.getElem_map, List.getElem_range, Prod.mk.injEq] at hrange
  obtain ⟨rfl, rfl⟩ := hrange
  refine ⟨rfl, rfl, ?_, ?_⟩
  · rw [Nat.succ_mul]
    omega
  · intro hnext
    have hfull : (k + 1) * width < count := (lt_blockCount_iff hpos).1 hnext
    rw [Nat.min_eq_left (Nat.le_of_lt hfull), Nat.succ_mul]
    omega

/-! ## The evaluations -/

/-- How an evaluation is started: a windowed one directly, or any one by a
configuration. -/
inductive Evaluation where
  | singleShot (width : Nat)
  | batched (width : Nat)
  | configured (config : Config)

namespace Evaluation

/-- The evaluation of the pairs of a reader. -/
def run (evaluation : Evaluation) (reader : PairReader) (modulus : Nat) : Traced Nat :=
  match evaluation with
  | singleShot width => Engine.singleShot reader modulus width
  | batched width => Engine.batched reader modulus width
  | configured config => evaluate reader modulus config

/-- The ranges that an evaluation of `count` pairs reads. -/
def ranges (evaluation : Evaluation) (count : Nat) : List (Nat × Nat) :=
  match evaluation with
  | singleShot _ => [(0, count)]
  | batched width => blockRanges count width
  | configured config =>
      if config.choose count = .batched then blockRanges count config.windowWidth
      else [(0, count)]

/-- What an evaluation of `count` pairs requires, in the order of its checks. -/
def require (evaluation : Evaluation) (count modulus : Nat) : Outcome Unit :=
  match evaluation with
  | singleShot width | batched width => requireWindowed count modulus width
  | configured config => do
      requireModulus modulus
      config.check
      if count = 0 then refuse .noPairs

end Evaluation

section Runs

variable {reader : PairReader} (h : reader.ServesRanges) {modulus width : Nat}
include h

section Accepted

variable (hm : 0 < modulus) (hcount : 0 < reader.count)
include hm hcount

theorem naive_eq_ok_of_servesRanges :
    ∃ value, naive reader modulus = ⟨.ok value, couple 0 reader.count⟩ := by
  obtain ⟨pairs, hlen, hbases, hexponents⟩ := h.exists_pairs (Nat.zero_le _) (Nat.le_refl _)
  have hpairs : pairs ≠ [] := by
    apply List.ne_nil_of_length_pos
    omega
  exact ⟨_, naive_of_reads hbases hexponents hm hpairs⟩

variable (hpos : 1 ≤ width) (hle : width ≤ Window.maxWidth)
include hpos hle

theorem singleShot_eq_ok_of_servesRanges :
    ∃ value, singleShot reader modulus width = ⟨.ok value, couple 0 reader.count⟩ := by
  obtain ⟨pairs, -, hbases, hexponents⟩ := h.exists_pairs (Nat.zero_le _) (Nat.le_refl _)
  exact ⟨_, singleShot_of_reads hbases hexponents hm hcount hpos hle⟩

omit hcount in
/-- A block of a reader that answers every range is read, and leaves a table
that is wide enough for the next block. -/
theorem batchedBlock_ready (k : Nat) (progress : Progress) (hk : k * width < reader.count)
    (hready : Ready modulus width (reader.count - k * width) progress.table) :
    ∃ next, batchedBlock reader modulus width progress (k * width) =
        ⟨.ok next, couple (k * width) (min (k * width + width) reader.count)⟩ ∧
      Ready modulus width (reader.count - (k + 1) * width) next.table := by
  have hstart : k * width ≤ min (k * width + width) reader.count := by omega
  obtain ⟨block, hlen, hbases, hexponents⟩ := h.exists_pairs hstart (Nat.min_le_right _ _)
  -- a block that is not full is the last one
  have hsize : block.length = min width (reader.count - k * width) := by omega
  exact ⟨_, batchedBlock_of_reads hm hbases hexponents (by omega) (by omega) hready.wellFormed
    hready.modulus_eq (hsize ▸ hready.fits), ready_block hm hpos hle hk hsize⟩

theorem batched_eq_ok_of_servesRanges :
    ∃ value, batched reader modulus width =
      ⟨.ok value, couples (blockRanges reader.count width)⟩ := by
  have hblank : Ready modulus width (reader.count - 0 * width)
      ⟨min width reader.count, modulus, Array.replicate (2 ^ min width reader.count) 0⟩ := by
    rw [Nat.zero_mul, Nat.sub_zero]
    exact ready_blank hm (by omega) (by omega)
  obtain ⟨last, hrun, -⟩ := batched_of_invariant
    (fun k progress => Ready modulus width (reader.count - k * width) progress.table) hpos
    (batchedBlock_ready h hm hpos hle) hm hcount hle hblank
  exact ⟨last.product, hrun.trans (by rw [blockReads_eq_couples])⟩

end Accepted

/-- An evaluation of no pairs one power after another reads the empty range
before it refuses the request. -/
theorem naive_of_count_eq_zero (hcount : reader.count = 0) :
    naive reader modulus = ⟨refuse .noPairs, couple 0 0⟩ := by
  obtain ⟨pairs, hlen, hbases, hexponents⟩ := h.exists_pairs (Nat.zero_le _) (Nat.le_refl _)
  obtain rfl : pairs = [] := List.length_eq_zero_iff.1 (by omega)
  rw [naive, readBases_of_ok hbases, readExponents_of_ok hexponents, Traced.bind_ok,
    Traced.bind_ok, hcount]
  rfl

/-- A windowed evaluation that is called directly, by its checks. -/
theorem windowed_cases (modulus width : Nat) :
    (requireWindowed reader.count modulus width = .ok () ∧ 0 < reader.count ∧ 1 ≤ width ∧
        (∃ value, singleShot reader modulus width = ⟨.ok value, couple 0 reader.count⟩) ∧
        ∃ value, batched reader modulus width =
          ⟨.ok value, couples (blockRanges reader.count width)⟩) ∨
      ∃ e, requireWindowed reader.count modulus width = refuse e ∧
        singleShot reader modulus width = ⟨refuse e, []⟩ ∧
        batched reader modulus width = ⟨refuse e, []⟩ := by
  rcases requireWindowed_ok_or_refuse reader.count modulus width with
    ⟨hchecks, hcount, hm, hpos, hle⟩ | ⟨e, hchecks⟩
  · exact Or.inl ⟨hchecks, hcount, hpos, singleShot_eq_ok_of_servesRanges h hm hcount hpos hle,
      batched_eq_ok_of_servesRanges h hm hcount hpos hle⟩
  · refine Or.inr ⟨e, hchecks, ?_, ?_⟩
    · rw [singleShot, hchecks, Traced.lift_refuse_bind]
    · rw [batched, hchecks, Traced.lift_refuse_bind]

section Configured

variable (hm : 0 < modulus) {config : Config}
  (hwidth : 1 ≤ config.windowWidth ∧ config.windowWidth ≤ Window.maxWidth)
include hm hwidth

omit h in
/-- With a positive modulus and a supported width the strategy decides. -/
theorem evaluate_of_valid :
    evaluate reader modulus config =
      match config.choose reader.count with
      | .singleShot => singleShot reader modulus config.windowWidth
      | .batched => batched reader modulus config.windowWidth
      | .naive => naive reader modulus
      | .auto => Traced.ofOutcome (abort .openStrategy) := by
  rw [evaluate, requireModulus_of_pos hm, Traced.lift_ok_bind, Config.check,
    Window.requireWidth_eq, if_pos hwidth]
  exact Traced.lift_ok_bind () _

theorem evaluate_of_count_eq_zero (hcount : reader.count = 0) :
    ∃ reads, (∀ side, positionsRead side reads = []) ∧
      evaluate reader modulus config = ⟨refuse .noPairs, reads⟩ := by
  have hchecks : requireWindowed reader.count modulus config.windowWidth = refuse .noPairs := by
    rw [requireWindowed, if_pos hcount, refuse_bind]
  rw [evaluate_of_valid hm hwidth]
  cases hchoose : config.choose reader.count with
  | singleShot => exact ⟨[], fun _ => rfl, by rw [singleShot, hchecks, Traced.lift_refuse_bind]⟩
  | batched => exact ⟨[], fun _ => rfl, by rw [batched, hchecks, Traced.lift_refuse_bind]⟩
  | naive =>
      exact ⟨couple 0 0, fun side => positionsRead_couple side 0 0,
        naive_of_count_eq_zero h hcount⟩
  | auto => exact absurd hchoose (config.choose_ne_auto reader.count)

theorem evaluate_eq_ok_of_servesRanges (hcount : 0 < reader.count) :
    ∃ value, evaluate reader modulus config =
      ⟨.ok value, couples ((Evaluation.configured config).ranges reader.count)⟩ := by
  rw [evaluate_of_valid hm hwidth, Evaluation.ranges]
  cases hchoose : config.choose reader.count with
  | singleShot => exact singleShot_eq_ok_of_servesRanges h hm hcount hwidth.1 hwidth.2
  | batched => exact batched_eq_ok_of_servesRanges h hm hcount hwidth.1 hwidth.2
  | naive => exact naive_eq_ok_of_servesRanges h hm hcount
  | auto => exact absurd hchoose (config.choose_ne_auto reader.count)

end Configured

/-- An evaluation whose checks pass has a value and reads the couples of its
ranges, which tile the request. One whose checks refuse the request ends in
that refusal and has read no pair. -/
theorem Evaluation.run_cases (modulus : Nat) (evaluation : Evaluation) :
    (evaluation.require reader.count modulus = .ok () ∧
        Tiles 0 (evaluation.ranges reader.count) reader.count ∧
        ∃ value, evaluation.run reader modulus =
          ⟨.ok value, couples (evaluation.ranges reader.count)⟩) ∨
      ∃ e reads, evaluation.require reader.count modulus = refuse e ∧
        (∀ side, positionsRead side reads = []) ∧
        evaluation.run reader modulus = ⟨refuse e, reads⟩ := by
  cases evaluation with
  | singleShot width =>
      rcases windowed_cases h modulus width with
        ⟨hchecks, hcount, -, hrun, -⟩ | ⟨e, hchecks, hrun, -⟩
      · exact Or.inl ⟨hchecks, tiles_singleton hcount, hrun⟩
      · exact Or.inr ⟨e, [], hchecks, fun _ => rfl, hrun⟩
  | batched width =>
      rcases windowed_cases h modulus width with
        ⟨hchecks, -, hpos, -, hrun⟩ | ⟨e, hchecks, -, hrun⟩
      · exact Or.inl ⟨hchecks, tiles_blockRanges hpos, hrun⟩
      · exact Or.inr ⟨e, [], hchecks, fun _ => rfl, hrun⟩
  | configured config =>
      -- the checks in their order: the modulus, the width, and then the pairs
      by_cases hm : modulus = 0
      · refine Or.inr ⟨.zeroModulus, [], ?_, fun _ => rfl, ?_⟩
        · rw [require, requireModulus, if_pos hm, refuse_bind]
        · rw [run, evaluate, requireModulus, if_pos hm, Traced.lift_refuse_bind]
      have hpos : 0 < modulus := Nat.pos_of_ne_zero hm
      by_cases hwidth : 1 ≤ config.windowWidth ∧ config.windowWidth ≤ Window.maxWidth
      case neg =>
        refine Or.inr ⟨.windowOutOfRange config.windowWidth Window.maxWidth, [], ?_,
          fun _ => rfl, ?_⟩
        · rw [require, requireModulus_of_pos hpos, ok_bind, Config.check, Window.requireWidth_eq,
            if_neg hwidth, refuse_bind]
        · rw [run, evaluate, requireModulus_of_pos hpos, Traced.lift_ok_bind, Config.check,
            Window.requireWidth_eq, if_neg hwidth, Traced.lift_refuse_bind]
      have hrequire : (configured config).require reader.count modulus =
          if reader.count = 0 then refuse .noPairs else .ok () := by
        rw [require, requireModulus_of_pos hpos, ok_bind, Config.check, Window.requireWidth_eq,
          if_pos hwidth, ok_bind]
        rfl
      by_cases hcount : reader.count = 0
      · obtain ⟨reads, hreads, hrun⟩ := evaluate_of_count_eq_zero h hpos hwidth hcount
        exact Or.inr ⟨.noPairs, reads, hrequire.trans (if_pos hcount), hreads, hrun⟩
      · have hcount' : 0 < reader.count := Nat.pos_of_ne_zero hcount
        refine Or.inl ⟨hrequire.trans (if_neg hcount), ?_,
          evaluate_eq_ok_of_servesRanges h hpos hwidth hcount'⟩
        rw [ranges]
        split
        · exact tiles_blockRanges hwidth.1
        · exact tiles_singleton hcount'

end Runs

/-- An evaluation with a value has read couples of the bases and the exponents
of one range each, and the ranges tile the request, so every pair is read once
on each side, in order. The blockwise evaluation reads as many blocks of `width`
pairs as it takes, and only the last one may be shorter; the others read all
pairs in one couple. An evaluation that fails has read no pair. -/
theorem reads_tile_or_are_empty {reader : PairReader} (h : reader.ServesRanges) (modulus : Nat)
    (evaluation : Evaluation) :
    (∀ value, (evaluation.run reader modulus).outcome = .ok value →
      (evaluation.run reader modulus).reads = couples (evaluation.ranges reader.count) ∧
      Tiles 0 (evaluation.ranges reader.count) reader.count ∧
      ∀ side, positionsRead side (evaluation.run reader modulus).reads =
        List.range reader.count) ∧
    (∀ failure, (evaluation.run reader modulus).outcome = .error failure →
      ∀ side, positionsRead side (evaluation.run reader modulus).reads = []) ∧
    ∀ width, (blockRanges reader.count width).length = reader.count ⌈/⌉ width ∧
      ∀ k start stop, (blockRanges reader.count width)[k]? = some (start, stop) →
        start = k * width ∧ stop = min ((k + 1) * width) reader.count ∧ stop - start ≤ width ∧
          (k + 1 < (blockRanges reader.count width).length → stop - start = width) := by
  refine ⟨?_, ?_, fun width => ⟨length_blockRanges reader.count width,
    fun _ _ _ => getElem?_blockRanges⟩⟩
  · intro value hvalue
    rcases evaluation.run_cases h modulus with ⟨-, htiles, other, hrun⟩ | ⟨e, reads, -, -, hrun⟩
    · refine ⟨by rw [hrun], htiles, fun side => ?_⟩
      rw [hrun, htiles.positionsRead_couples, Nat.sub_zero, List.range_eq_range']
    · rw [hrun] at hvalue
      cases hvalue
  · intro failure hfailure side
    rcases evaluation.run_cases h modulus with ⟨-, -, other, hrun⟩ | ⟨e, reads, -, hnone, hrun⟩
    · rw [hrun] at hfailure
      cases hfailure
    · rw [hrun]
      exact hnone side

/-- Three pairs in blocks of two, a full block and a shorter one; and the same
pairs without a supported width, of which none is read. -/
theorem reads_tile_two_blocks :
    (NumberPairs.reader ⟨[2, 3, 4], [5, 1, 2]⟩).ServesRanges ∧
      ((Evaluation.batched 2).run (NumberPairs.reader ⟨[2, 3, 4], [5, 1, 2]⟩) 13).outcome =
        .ok 2 ∧
      ((Evaluation.batched 2).run (NumberPairs.reader ⟨[2, 3, 4], [5, 1, 2]⟩) 13).reads =
        couple 0 2 ++ couple 2 3 ∧
      ((Evaluation.batched 0).run (NumberPairs.reader ⟨[2, 3, 4], [5, 1, 2]⟩) 13).outcome =
        refuse (.windowOutOfRange 0 Window.maxWidth) ∧
      (∀ side, positionsRead side
        ((Evaluation.batched 0).run (NumberPairs.reader ⟨[2, 3, 4], [5, 1, 2]⟩) 13).reads = []) ∧
      (blockRanges 3 2)[0]? = some (0, 2) ∧ 2 - 0 = 2 := by
  have hserves : (NumberPairs.reader ⟨[2, 3, 4], [5, 1, 2]⟩).ServesRanges :=
    (NumberPairs.serves_reader rfl).servesRanges
  have hvalue : ((Evaluation.batched 2).run (NumberPairs.reader ⟨[2, 3, 4], [5, 1, 2]⟩)
      13).outcome = .ok 2 := by decide +kernel
  have hrefused : ((Evaluation.batched 0).run (NumberPairs.reader ⟨[2, 3, 4], [5, 1, 2]⟩)
      13).outcome = refuse (.windowOutOfRange 0 Window.maxWidth) := rfl
  have hblock : (blockRanges 3 2)[0]? = some (0, 2) := by decide
  obtain ⟨htiles, -, hblocks⟩ := reads_tile_or_are_empty hserves 13 (.batched 2)
  obtain ⟨-, hnone, -⟩ := reads_tile_or_are_empty hserves 13 (.batched 0)
  exact ⟨hserves, hvalue, (htiles 2 hvalue).1, hrefused, hnone _ hrefused, hblock,
    ((hblocks 2).2 0 0 2 hblock).2.2.2 (by decide)⟩

end Engine

end PowerProduct
