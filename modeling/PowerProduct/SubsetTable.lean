import PowerProduct.Modular
import PowerProduct.Window

/-!
# Tables of subset products

A table of width `w` holds the product of every subset of a block of `w` bases,
reduced by a modulus. A subset is a mask: bit `j` selects base `j` of the
block. Storage is reserved once and filled for one block after another; the
last block of a request may be narrower, and then the table shrinks to it.
-/

set_option autoImplicit false

namespace PowerProduct

/-- The products of the subsets of a block, by mask. -/
structure SubsetTable where
  width : Nat
  modulus : Nat
  entries : Array Nat
  deriving DecidableEq, Repr

namespace SubsetTable

/-- A table of zeros for blocks of `width` bases. -/
def blank (width modulus : Nat) : Outcome SubsetTable := do
  Window.requireWidth width
  requireModulus modulus
  return ⟨width, modulus, Array.replicate (Window.tableSize width) 0⟩

/-! ## Access to the entries -/

/-- A change of the entries in place. What was stored before a failure stays. -/
abbrev Edit (α : Type) := EStateM Failure (Array Nat) α

instance {σ : Type} : MonadLift (Except Failure) (EStateM Failure σ) where
  monadLift outcome state :=
    match outcome with
    | .ok a => .ok a state
    | .error failure => .error failure state

/-- The entry at `index`. -/
def fetch (index : Nat) : Edit Nat := fun entries =>
  match entries[index]? with
  | some entry => .ok entry entries
  | none => .error (.fault (.indexOutOfBounds index entries.size)) entries

/-- Stores `value` at `index`. -/
def store (index value : Nat) : Edit Unit := fun entries =>
  if h : index < entries.size then .ok () (entries.set index value h)
  else .error (.fault (.indexOutOfBounds index entries.size)) entries

/-- The product of the bases that `mask` selects. -/
def entry (table : SubsetTable) (mask : Nat) : Outcome Nat :=
  match table.entries[mask]? with
  | some entry => .ok entry
  | none => abort (.indexOutOfBounds mask table.entries.size)

/-! ## Filling -/

/-- The lowest bit that is set in a mask: the mask and its negative in 64-bit
two's complement have only this bit in common. -/
def lowestBit (mask : Nat) : Nat :=
  let word := UInt64.ofNat mask
  (word &&& -word).toNat

/-- Stores each base, reduced, at the mask of its own bit; `position` is the
position of the first base of the list. -/
def fillSingles (modulus : Nat) : Nat → List Nat → Edit Unit
  | _, [] => pure ()
  | position, base :: rest => do
      store (1 <<< position) (← Modular.reduce base modulus)
      fillSingles modulus (position + 1) rest

/-- Stores the product for a mask with more than one bit: the entry without
the lowest bit times the entry of that bit. A mask of one bit is left alone. -/
def fillProduct (modulus mask : Nat) : Edit Unit := do
  let low := lowestBit mask
  if low ≠ mask then
    let rest ← fetch (mask ^^^ low)
    let single ← fetch low
    store mask (← Modular.reduce (rest * single) modulus)

/-- Stores the products of all subsets of `bases`, the masks in order. -/
def fillEntries (modulus : Nat) (bases : List Nat) : Edit Unit := do
  store 0 (← Modular.reduce 1 modulus)
  fillSingles modulus 0 bases
  (List.range' 3 ((← get).size - 3)).forM (fillProduct modulus)

/-! ## Calls that change a table -/

/-- A change of a table in place. What was changed before a failure stays. -/
abbrev Action := EStateM Failure SubsetTable Unit

/-- A change of the entries as a change of their table. -/
def onEntries (edit : Edit Unit) : Action := fun table =>
  match edit.run table.entries with
  | .ok _ entries => .ok () { table with entries }
  | .error failure entries => .error failure { table with entries }

/-- Fills the table for a block of bases, whatever it held before. The block
has to be as wide as the table. -/
def fill (bases : List Nat) : Action := do
  let table ← get
  if bases.length ≠ table.width then refuse (.lengthMismatch table.width bases.length)
  onEntries (fillEntries table.modulus bases)

/-- Narrows the table to the first `width` bases of its block, in the same
storage. -/
def shrink (width : Nat) : Action := do
  let table ← get
  if width = 0 ∨ table.width < width then refuse (.windowOutOfRange width table.width)
  set { table with width, entries := table.entries.take (Window.tableSize width) }

/-- The table that an action makes of `table`. -/
def after (table : SubsetTable) (action : Action) : Outcome SubsetTable :=
  match action.run table with
  | .ok _ next => .ok next
  | .error failure _ => .error failure

/-! ## Runs of calls -/

/-- A call that changes a table. -/
inductive Call where
  | fill (bases : List Nat)
  | shrink (width : Nat)
  deriving DecidableEq, Repr

/-- What a call does to the table. -/
def Call.action : Call → Action
  | .fill bases => SubsetTable.fill bases
  | .shrink width => SubsetTable.shrink width

/-- Whether a call succeeds, and the table after it. -/
def step (table : SubsetTable) (call : Call) : Outcome Unit × SubsetTable :=
  match call.action.run table with
  | .ok _ next => (.ok (), next)
  | .error failure next => (.error failure, next)

/-- The table after a sequence of calls. -/
def afterCalls (table : SubsetTable) (calls : List Call) : SubsetTable :=
  calls.foldl (fun current call => (step current call).2) table

end SubsetTable

end PowerProduct
