import PowerProduct.Config
import PowerProduct.Sweep
import PowerProduct.Traced

/-!
# Evaluation of a product of powers

`singleShot` fills the tables of all blocks and sweeps over them together, so
each squaring is shared by the whole request. `batched` fills one table for one
block after another and multiplies the partial products, so it holds one block
at a time. `evaluate` takes the strategy from a configuration. All three check
the request before they read any pair.
-/

set_option autoImplicit false

namespace PowerProduct.Engine

/-- The conditions of a windowed evaluation: at least one pair, a positive
modulus and a supported window width, checked in this order. -/
def requireWindowed (count modulus width : Nat) : Outcome Unit := do
  if count = 0 then refuse .noPairs
  requireModulus modulus
  Window.requireWidth width

/-- The table of one block, as wide as the block. -/
def blockTable (modulus : Nat) (block : List Nat) : Outcome SubsetTable := do
  (← SubsetTable.blank block.length modulus).after (SubsetTable.fill block)

/-- The tables of all blocks of `width` bases. -/
def blockTables (modulus width : Nat) (bases : List Nat) : Outcome (List SubsetTable) := do
  requireBlockWidth width
  (blocks width bases).mapM (blockTable modulus)

/-- All pairs at once: one table for each block of `width` bases, and one sweep
over all tables. -/
def singleShot (reader : PairReader) (modulus width : Nat) : Traced Nat := do
  requireWindowed reader.count modulus width
  let bases ← reader.readBases 0 reader.count
  let exponents ← reader.readExponents 0 reader.count
  let tables ← blockTables modulus width bases
  Sweep.run tables exponents width modulus

/-- The table for a block of `size` bases: a shorter block than the table's
shrinks the table. -/
def fitTable (table : SubsetTable) (size : Nat) : Outcome SubsetTable :=
  if size < table.width then table.after (SubsetTable.shrink size) else .ok table

/-- The storage and the product so far of a blockwise evaluation. -/
structure Progress where
  table : SubsetTable
  product : Nat

/-- One block: its pairs from `start` on are read, the table is filled for
them, and the product is multiplied by the block's own product. The positions
are meant as 64-bit words: a reader holds at most `2 ^ 64 - Window.maxWidth`
pairs, so that `start + width` does not leave them. -/
def batchedBlock (reader : PairReader) (modulus width : Nat) (progress : Progress) (start : Nat) :
    Traced Progress := do
  let stop := min (start + width) reader.count
  let bases ← reader.readBases start stop
  let exponents ← reader.readExponents start stop
  let table ← (← fitTable progress.table bases.length).after (SubsetTable.fill bases)
  let partialProduct ← Sweep.run [table] exponents width modulus
  let product ← Modular.reduce (progress.product * partialProduct) modulus
  return ⟨table, product⟩

/-- The first positions of the blocks of `width` pairs. -/
def blockStarts (count width : Nat) : List Nat :=
  (List.range (blockCount count width)).map (· * width)

/-- Block by block: one table serves all blocks. -/
def batched (reader : PairReader) (modulus width : Nat) : Traced Nat := do
  requireWindowed reader.count modulus width
  let table ← SubsetTable.blank (min width reader.count) modulus
  let one ← Modular.reduce 1 modulus
  requireBlockWidth width
  let progress ← (blockStarts reader.count width).foldlM (batchedBlock reader modulus width)
    ⟨table, one⟩
  return progress.product

/-- One power after another, all pairs read at once. -/
def naive (reader : PairReader) (modulus : Nat) : Traced Nat := do
  let bases ← reader.readBases 0 reader.count
  let exponents ← reader.readExponents 0 reader.count
  Modular.powerProduct bases exponents modulus

/-- The product of the powers of all pairs, evaluated as `config` says. The
modulus is checked before the configuration. -/
def evaluate (reader : PairReader) (modulus : Nat) (config : Config) : Traced Nat := do
  requireModulus modulus
  config.check
  match config.choose reader.count with
  | .singleShot => singleShot reader modulus config.windowWidth
  | .batched => batched reader modulus config.windowWidth
  | .naive => naive reader modulus
  | .auto => Traced.ofOutcome (abort .openStrategy)

end PowerProduct.Engine
