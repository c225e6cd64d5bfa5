import PowerProduct.Engine

/-!
# Requests over numbers

One request, a list of independent requests, and the columns of a matrix of
bases that share their exponents.
-/

set_option autoImplicit false

namespace PowerProduct

/-- A product of powers to evaluate. -/
structure Request where
  bases : List Nat
  exponents : List Nat
  modulus : Nat
  deriving DecidableEq, Repr

namespace Request

/-- The value of a request. -/
def evaluate (request : Request) (config : Config) : Outcome Nat := do
  let pairs ← NumberPairs.ofLists request.bases request.exponents
  (Engine.evaluate pairs.reader request.modulus config).outcome

/-- The values of independent requests, in order. A request that fails does
not affect the others. -/
def evaluateAll (requests : List Request) (config : Config) : List (Outcome Nat) :=
  requests.map fun request => request.evaluate config

/-! ## Columns of a matrix -/

/-- The number of columns of a matrix with as many rows as `exponents` has
entries and rows of one length. -/
def requireShape (rows : List (List Nat)) (exponents : List Nat) : Outcome Nat :=
  match rows with
  | [] => refuse .noPairs
  | first :: _ => do
      if rows.length ≠ exponents.length then
        refuse (.lengthMismatch rows.length exponents.length)
      match rows.find? fun row => row.length != first.length with
      | some row => refuse (.lengthMismatch first.length row.length)
      | none => return first.length

/-- For every column the product of its entries raised to the exponents of
their rows. The shape, the modulus and the configuration are checked also when
there are no columns. -/
def evaluateColumns (rows : List (List Nat)) (exponents : List Nat) (modulus : Nat)
    (config : Config) : Outcome (List Nat) := do
  let columns ← requireShape rows exponents
  requireModulus modulus
  config.check
  (List.range columns).mapM fun column =>
    (Engine.evaluate (MatrixColumn.reader ⟨rows, column, exponents⟩) modulus config).outcome

end Request

end PowerProduct
