import PowerProduct.Buffer

/-!
# Reading pairs range by range

The engine never holds a request as a whole. It asks a `PairReader` for the
bases and the exponents of a range of pairs. A reader serves two lists of
numbers when every range inside the request yields the matching parts of the
lists. Numbers in memory, numbers in buffers and a column of a matrix are three
ways to hold the pairs, and each has its reader.
-/

set_option autoImplicit false

namespace PowerProduct

/-- The entries of `xs` from `start` up to `stop`. -/
def entriesBetween {α : Type} (xs : List α) (start stop : Nat) : Except Fault (List α) :=
  if start ≤ stop ∧ stop ≤ xs.length then .ok ((xs.drop start).take (stop - start))
  else .error (.rangeOutOfBounds start stop xs.length)

/-- Pairs of a base and an exponent that are read by ranges of positions. -/
structure PairReader where
  /-- The number of pairs. -/
  count : Nat
  /-- The bases from a start up to a stop. -/
  bases : Nat → Nat → Except Fault (List Nat)
  /-- The exponents from a start up to a stop. -/
  exponents : Nat → Nat → Except Fault (List Nat)

/-- The reader yields the parts of `bases` and `exponents`, one exponent for
each base, for every range inside the request. -/
structure PairReader.Serves (reader : PairReader) (bases exponents : List Nat) : Prop where
  count_bases : reader.count = bases.length
  count_exponents : reader.count = exponents.length
  bases_eq : ∀ start stop, start ≤ stop → stop ≤ reader.count →
    reader.bases start stop = entriesBetween bases start stop
  exponents_eq : ∀ start stop, start ≤ stop → stop ≤ reader.count →
    reader.exponents start stop = entriesBetween exponents start stop

/-! ## Numbers in memory -/

/-- Pairs held as two lists of numbers. -/
structure NumberPairs where
  bases : List Nat
  exponents : List Nat
  deriving DecidableEq, Repr

namespace NumberPairs

/-- The pairs of two lists, which have to be equally long and not empty. -/
def ofLists (bases exponents : List Nat) : Outcome NumberPairs := do
  requirePairs bases.length exponents.length
  return ⟨bases, exponents⟩

/-- The reader of the two lists. -/
def reader (pairs : NumberPairs) : PairReader where
  count := pairs.bases.length
  bases := entriesBetween pairs.bases
  exponents := entriesBetween pairs.exponents

theorem serves_reader {pairs : NumberPairs} (h : pairs.bases.length = pairs.exponents.length) :
    pairs.reader.Serves pairs.bases pairs.exponents where
  count_bases := rfl
  count_exponents := h
  bases_eq _ _ _ _ := rfl
  exponents_eq _ _ _ _ := rfl

end NumberPairs

/-! ## Numbers in buffers -/

/-- Pairs held as buffers, all bases of one width and all exponents of one
width. -/
structure BufferPairs where
  bases : List Buffer
  exponents : List Buffer
  baseWidth : Nat
  exponentWidth : Nat
  deriving DecidableEq, Repr

namespace BufferPairs

/-- The pairs of two arrays of buffers, which have to be equally long, not
empty, and each of a common width. -/
def ofBuffers (bases exponents : List Buffer) : Outcome BufferPairs := do
  requirePairs bases.length exponents.length
  let baseWidth ← Buffer.commonWidth bases "bases"
  let exponentWidth ← Buffer.commonWidth exponents "exponents"
  return { bases, exponents, baseWidth, exponentWidth }

/-- The reader that decodes the buffers of a range when it is asked for. -/
def reader (pairs : BufferPairs) : PairReader where
  count := pairs.bases.length
  bases start stop := do
    return Buffer.decodeAll (← entriesBetween pairs.bases start stop) pairs.baseWidth
  exponents start stop := do
    return Buffer.decodeAll (← entriesBetween pairs.exponents start stop) pairs.exponentWidth

end BufferPairs

/-! ## A column of a matrix -/

/-- The bases in one column of a matrix of rows, with one exponent for each
row. -/
structure MatrixColumn where
  rows : List (List Nat)
  column : Nat
  exponents : List Nat
  deriving DecidableEq, Repr

namespace MatrixColumn

/-- The entry of a row in column `column`. -/
def cell (column : Nat) (row : List Nat) : Except Fault Nat :=
  match row[column]? with
  | some entry => .ok entry
  | none => .error (.indexOutOfBounds column row.length)

/-- The reader that picks the column out of the rows of a range. -/
def reader (pairs : MatrixColumn) : PairReader where
  count := pairs.rows.length
  bases start stop := do (← entriesBetween pairs.rows start stop).mapM (cell pairs.column)
  exponents := entriesBetween pairs.exponents

end MatrixColumn

end PowerProduct
