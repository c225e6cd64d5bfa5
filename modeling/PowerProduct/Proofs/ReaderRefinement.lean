import Mathlib
import PowerProduct.Proofs.BufferRequests
import PowerProduct.Proofs.ColumnProducts
import PowerProduct.Proofs.ReadDiscipline

/-!
# Readers in the place of numbers in memory

A reader that decodes buffers when it is asked, or picks a column out of the
rows, answers every range as the numbers in memory do: with the same numbers
inside the request, and with a fault outside (`PairReader.Refines`). An
evaluation asks for ranges inside the request only, so it does the same over
every reader of the same lists, read by read (`Evaluation.run_eq_of_serves`). The
main statement is `lazy_readers_refine_numbers`.
-/

set_option autoImplicit false

namespace PowerProduct

/-! ## Ranges in and outside the request -/

namespace PairReader

/-- A range of a list faults exactly if it begins after its end or ends after
the last entry. -/
theorem entriesBetween_eq_error_iff {α : Type} (xs : List α) (start stop : Nat) :
    (∃ fault, entriesBetween xs start stop = .error fault) ↔ stop < start ∨ xs.length < stop := by
  rw [← Nat.not_le, ← Nat.not_le, ← not_and_or]
  constructor
  · rintro ⟨fault, hfault⟩ ⟨hle, hstop⟩
    rw [entriesBetween_of_le hle hstop] at hfault
    cases hfault
  · intro hrange
    exact ⟨_, if_neg hrange⟩

/-- The reader answers every range as `decoded` does, and faults exactly on the
ranges that are not inside the request. -/
structure Refines (reader decoded : PairReader) : Prop where
  count_eq : reader.count = decoded.count
  bases_eq : ∀ start stop, reader.bases start stop = decoded.bases start stop
  exponents_eq : ∀ start stop, reader.exponents start stop = decoded.exponents start stop
  bases_fault : ∀ start stop, (∃ fault, reader.bases start stop = .error fault) ↔
    stop < start ∨ reader.count < stop
  exponents_fault : ∀ start stop, (∃ fault, reader.exponents start stop = .error fault) ↔
    stop < start ∨ reader.count < stop

/-- A reader of the parts of two lists, whatever the range, refines the lists. -/
theorem refines_numbers {reader : PairReader} {bases exponents : List Nat}
    (hserves : reader.Serves bases exponents)
    (hbases : ∀ start stop, reader.bases start stop = entriesBetween bases start stop)
    (hexponents : ∀ start stop, reader.exponents start stop = entriesBetween exponents start stop) :
    reader.Refines (NumberPairs.reader ⟨bases, exponents⟩) where
  count_eq := hserves.count_bases
  bases_eq := hbases
  exponents_eq := hexponents
  bases_fault start stop := by
    rw [hbases, entriesBetween_eq_error_iff, hserves.count_bases]
  exponents_fault start stop := by
    rw [hexponents, entriesBetween_eq_error_iff, hserves.count_exponents]

end PairReader

/-! ## Evaluations over readers of the same lists -/

namespace Engine

open PairReader

/-- A block begins before the end of the request. -/
theorem lt_of_mem_blockStarts {count width start : Nat} (h : start ∈ blockStarts count width) :
    start < count := by
  obtain ⟨k, hk, rfl⟩ := List.mem_map.1 h
  rw [List.mem_range] at hk
  rcases Nat.eq_zero_or_pos width with rfl | hpos
  · -- without a width there are no blocks
    simp [blockCount] at hk
  · exact (lt_blockCount_iff hpos).1 hk

/-- Steps that agree on every entry of a list make up the same loop. -/
theorem foldlM_eq_of_mem {σ α : Type} {step step' : σ → α → Traced σ} {xs : List α}
    (h : ∀ x ∈ xs, ∀ state, step state x = step' state x) (state : σ) :
    xs.foldlM step state = xs.foldlM step' state := by
  induction xs generalizing state with
  | nil => rfl
  | cons x rest ih =>
      have hrest := ih fun y hmem => h y (List.mem_cons_of_mem x hmem)
      rw [List.foldlM_cons, List.foldlM_cons, h x List.mem_cons_self]
      exact congrArg _ (funext hrest)

section Numbers

variable {reader : PairReader} {bases exponents : List Nat} (h : reader.Serves bases exponents)
include h

theorem readBases_of_serves {start stop : Nat} (hle : start ≤ stop) (hstop : stop ≤ reader.count) :
    reader.readBases start stop =
      (NumberPairs.reader ⟨bases, exponents⟩).readBases start stop := by
  rw [readBases, h.bases_eq start stop hle hstop]
  rfl

theorem readExponents_of_serves {start stop : Nat} (hle : start ≤ stop)
    (hstop : stop ≤ reader.count) :
    reader.readExponents start stop =
      (NumberPairs.reader ⟨bases, exponents⟩).readExponents start stop := by
  rw [readExponents, h.exponents_eq start stop hle hstop]
  rfl

theorem count_eq_numbers : reader.count = (NumberPairs.reader ⟨bases, exponents⟩).count :=
  h.count_bases

theorem naive_eq_of_serves (modulus : Nat) :
    naive reader modulus = naive (NumberPairs.reader ⟨bases, exponents⟩) modulus := by
  rw [naive, naive, readBases_of_serves h (Nat.zero_le _) (Nat.le_refl _),
    readExponents_of_serves h (Nat.zero_le _) (Nat.le_refl _), count_eq_numbers h]

theorem singleShot_eq_of_serves (modulus width : Nat) :
    singleShot reader modulus width =
      singleShot (NumberPairs.reader ⟨bases, exponents⟩) modulus width := by
  rw [singleShot, singleShot, readBases_of_serves h (Nat.zero_le _) (Nat.le_refl _),
    readExponents_of_serves h (Nat.zero_le _) (Nat.le_refl _), count_eq_numbers h]

theorem batchedBlock_eq_of_serves (modulus width : Nat) (progress : Progress) {start : Nat}
    (hstart : start < reader.count) :
    batchedBlock reader modulus width progress start =
      batchedBlock (NumberPairs.reader ⟨bases, exponents⟩) modulus width progress start := by
  have hle : start ≤ min (start + width) reader.count := by omega
  rw [batchedBlock, batchedBlock, readBases_of_serves h hle (Nat.min_le_right _ _),
    readExponents_of_serves h hle (Nat.min_le_right _ _), count_eq_numbers h]

theorem batched_eq_of_serves (modulus width : Nat) :
    batched reader modulus width =
      batched (NumberPairs.reader ⟨bases, exponents⟩) modulus width := by
  have hloop : ∀ progress,
      (blockStarts reader.count width).foldlM (batchedBlock reader modulus width) progress =
        (blockStarts reader.count width).foldlM
          (batchedBlock (NumberPairs.reader ⟨bases, exponents⟩) modulus width) progress := by
    apply foldlM_eq_of_mem
    intro start hmem progress
    exact batchedBlock_eq_of_serves h modulus width progress (lt_of_mem_blockStarts hmem)
  rw [count_eq_numbers h] at hloop
  simp only [batched, count_eq_numbers h, hloop]

/-- An evaluation over a reader and one over the lists that it serves have the
same outcome and make the same reads. -/
theorem Evaluation.run_eq_of_serves (evaluation : Evaluation) (modulus : Nat) :
    evaluation.run reader modulus =
      evaluation.run (NumberPairs.reader ⟨bases, exponents⟩) modulus := by
  cases evaluation with
  | singleShot width => exact singleShot_eq_of_serves h modulus width
  | batched width => exact batched_eq_of_serves h modulus width
  | configured config =>
      rw [run, run, evaluate, evaluate, singleShot_eq_of_serves h, batched_eq_of_serves h,
        naive_eq_of_serves h, count_eq_numbers h]

end Numbers

end Engine

/-! ## Buffers and columns -/

/-- Arrays of buffers that are accepted are held as they are, and they have
pairs. -/
theorem BufferPairs.of_ofBuffers {bases exponents : List Buffer} {pairs : BufferPairs}
    (h : ofBuffers bases exponents = .ok pairs) :
    requirePairs bases.length exponents.length = .ok () ∧ pairs.bases = bases ∧
      pairs.exponents = exponents := by
  obtain ⟨_, hpairs, hrest⟩ := exists_of_bind_eq_ok h
  obtain ⟨baseWidth, -, hrest⟩ := exists_of_bind_eq_ok hrest
  obtain ⟨exponentWidth, -, hrest⟩ := exists_of_bind_eq_ok hrest
  obtain rfl := Except.ok.inj hrest
  exact ⟨hpairs, rfl, rfl⟩

theorem NumberPairs.ofLists_eq_ok {bases exponents : List Nat}
    (h : requirePairs bases.length exponents.length = .ok ()) :
    ofLists bases exponents = .ok ⟨bases, exponents⟩ := by
  rw [ofLists, h]
  rfl

/-- Buffers that are accepted are read as the numbers in memory that they hold,
whatever the range; and so is a column of a matrix with rows of one length and
one exponent for each row. So every evaluation has the same outcome and makes
the same reads over the one as over the other, by whatever modulus. -/
theorem lazy_readers_refine_numbers :
    (∀ (bases exponents : List Buffer) (pairs : BufferPairs),
      BufferPairs.ofBuffers bases exponents = .ok pairs →
      ∃ decoded, NumberPairs.ofLists (Buffer.decodeAll bases pairs.baseWidth)
          (Buffer.decodeAll exponents pairs.exponentWidth) = .ok decoded ∧
        pairs.reader.Refines decoded.reader ∧
        ∀ (evaluation : Engine.Evaluation) (modulus : Nat),
          evaluation.run pairs.reader modulus = evaluation.run decoded.reader modulus) ∧
    ∀ (rows : List (List Nat)) (exponents : List Nat) (columns column : Nat),
      rows.length = exponents.length → (∀ row ∈ rows, row.length = columns) → column < columns →
      let decoded : NumberPairs := ⟨rows.map fun row => row.getD column 0, exponents⟩
      (rows ≠ [] → NumberPairs.ofLists decoded.bases decoded.exponents = .ok decoded) ∧
        (MatrixColumn.reader ⟨rows, column, exponents⟩).Refines decoded.reader ∧
        ∀ (evaluation : Engine.Evaluation) (modulus : Nat),
          evaluation.run (MatrixColumn.reader ⟨rows, column, exponents⟩) modulus =
            evaluation.run decoded.reader modulus := by
  refine ⟨?_, ?_⟩
  · intro bases exponents pairs hpairs
    obtain ⟨hrequire, rfl, rfl⟩ := BufferPairs.of_ofBuffers hpairs
    have hserves := BufferPairs.serves_reader (requirePairs_eq_ok.1 hrequire).2
    refine ⟨_, NumberPairs.ofLists_eq_ok ?_, ?_, ?_⟩
    · rw [Buffer.decodeAll, Buffer.decodeAll, List.length_map, List.length_map]
      exact hrequire
    · exact PairReader.refines_numbers hserves
        (fun _ _ => decodeAll_entriesBetween ..) (fun _ _ => decodeAll_entriesBetween ..)
    · intro evaluation modulus
      exact evaluation.run_eq_of_serves hserves modulus
  · intro rows exponents columns column hlen hrows hcolumn decoded
    have hserves := MatrixColumn.serves_reader_of_rows hlen hrows hcolumn
    refine ⟨?_, ?_, ?_⟩
    · intro hne
      apply NumberPairs.ofLists_eq_ok
      rw [List.length_map]
      exact requirePairs_of_ne_nil hne hlen
    · exact PairReader.refines_numbers hserves
        (MatrixColumn.mapM_cell_entriesBetween hrows hcolumn) (fun _ _ => rfl)
    · intro evaluation modulus
      exact evaluation.run_eq_of_serves hserves modulus

/-- Two pairs of buffers, and the second column of two rows. The range of the
second pair has its base, the empty range at the end has none, and the ranges
that leave the request or end before they begin are faults. Both are evaluated
as the numbers in memory are. -/
theorem lazy_readers_refine_numbers_two_pairs :
    BufferPairs.ofBuffers [[0, 2], [0, 3]] [[5], [1]] =
        .ok ⟨[[0, 2], [0, 3]], [[5], [1]], 2, 1⟩ ∧
      (BufferPairs.reader ⟨[[0, 2], [0, 3]], [[5], [1]], 2, 1⟩).bases 1 2 = .ok [3] ∧
      (∃ fault, (BufferPairs.reader ⟨[[0, 2], [0, 3]], [[5], [1]], 2, 1⟩).bases 1 3 =
        .error fault) ∧
      (Engine.Evaluation.batched 1).run
          (BufferPairs.reader ⟨[[0, 2], [0, 3]], [[5], [1]], 2, 1⟩) 13 =
        (Engine.Evaluation.batched 1).run (NumberPairs.reader ⟨[2, 3], [5, 1]⟩) 13 ∧
      (∀ row ∈ [[7, 2], [7, 3]], row.length = 2) ∧ [[7, 2], [7, 3]] ≠ [] ∧
      NumberPairs.ofLists [2, 3] [5, 1] = .ok ⟨[2, 3], [5, 1]⟩ ∧
      (MatrixColumn.reader ⟨[[7, 2], [7, 3]], 1, [5, 1]⟩).bases 2 2 = .ok [] ∧
      (∃ fault, (MatrixColumn.reader ⟨[[7, 2], [7, 3]], 1, [5, 1]⟩).bases 2 1 = .error fault) ∧
      (Engine.Evaluation.singleShot 2).run (MatrixColumn.reader ⟨[[7, 2], [7, 3]], 1, [5, 1]⟩) 13 =
        (Engine.Evaluation.singleShot 2).run (NumberPairs.reader ⟨[2, 3], [5, 1]⟩) 13 := by
  obtain ⟨hbuffers, hcolumns⟩ := lazy_readers_refine_numbers
  have hrows : ∀ row ∈ [[7, 2], [7, 3]], row.length = 2 := by decide
  have hne : [[7, 2], [7, 3]] ≠ [] := by decide
  have hpairs : BufferPairs.ofBuffers [[0, 2], [0, 3]] [[5], [1]] =
      .ok ⟨[[0, 2], [0, 3]], [[5], [1]], 2, 1⟩ := rfl
  obtain ⟨decoded, hdecoded, hrefines, hrun⟩ := hbuffers _ _ _ hpairs
  obtain rfl : decoded = ⟨[2, 3], [5, 1]⟩ := Except.ok.inj hdecoded.symm
  obtain ⟨hlists, hrefines', hrun'⟩ :=
    hcolumns [[7, 2], [7, 3]] [5, 1] 2 1 rfl hrows (by decide)
  exact ⟨hpairs, hrefines.bases_eq 1 2, (hrefines.bases_fault 1 3).2 (Or.inr (by decide)),
    hrun (.batched 1) 13, hrows, hne, hlists hne, hrefines'.bases_eq 2 2,
    (hrefines'.bases_fault 2 1).2 (Or.inl (by decide)), hrun' (.singleShot 2) 13⟩

end PowerProduct
