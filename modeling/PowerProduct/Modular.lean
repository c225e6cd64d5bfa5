import PowerProduct.Error

/-!
# Modular arithmetic without tables

Remainders, powers by repeated squaring, and the product of powers computed one
pair at a time. Every function states its conditions: a list operation needs at
least one entry and a positive modulus, and refuses the request otherwise.
-/

set_option autoImplicit false

namespace PowerProduct.Modular

/-- The remainder of `x` by `modulus`. -/
def reduce (x modulus : Nat) : Outcome Nat :=
  if modulus = 0 then abort .zeroDivisor else .ok (x % modulus)

/-- The power `base ^ exponent` by `modulus`: the square of the base is raised
to half the exponent, and an odd exponent contributes the base once more. -/
def squareAndMultiply (base exponent modulus : Nat) : Nat :=
  if exponent = 0 then 1 % modulus
  else
    let half := squareAndMultiply (base * base % modulus) (exponent / 2) modulus
    if exponent % 2 = 1 then base * half % modulus else half
termination_by exponent
decreasing_by omega

/-- The power `base ^ exponent` by `modulus`. -/
def power (base exponent modulus : Nat) : Outcome Nat :=
  if modulus = 0 then abort .zeroDivisor
  else .ok (squareAndMultiply (base % modulus) exponent modulus)

/-- The product of two numbers by `modulus`. -/
def product (a b modulus : Nat) : Outcome Nat := do
  requireModulus modulus
  reduce (a * b) modulus

/-- The product of all `values` by `modulus`, from the front. -/
def productAll (values : List Nat) (modulus : Nat) : Outcome Nat := do
  if values.isEmpty then refuse .noPairs
  requireModulus modulus
  values.foldlM (fun acc value => reduce (acc * value) modulus) (← reduce 1 modulus)

/-- The power of each pair by `modulus`. -/
def powers (bases exponents : List Nat) (modulus : Nat) : Outcome (List Nat) := do
  requirePairs bases.length exponents.length
  requireModulus modulus
  (bases.zip exponents).mapM fun pair => power pair.1 pair.2 modulus

/-- The product of the powers of all pairs by `modulus`, one power after the
other. -/
def powerProduct (bases exponents : List Nat) (modulus : Nat) : Outcome Nat := do
  requirePairs bases.length exponents.length
  requireModulus modulus
  (bases.zip exponents).foldlM
    (fun acc pair => do reduce (acc * (← power pair.1 pair.2 modulus)) modulus)
    (← reduce 1 modulus)

theorem reduce_of_pos {x modulus : Nat} (h : 0 < modulus) :
    reduce x modulus = .ok (x % modulus) := by
  simp [reduce, Nat.ne_of_gt h]

theorem power_of_pos {base exponent modulus : Nat} (h : 0 < modulus) :
    power base exponent modulus =
      .ok (squareAndMultiply (base % modulus) exponent modulus) := by
  simp [power, Nat.ne_of_gt h]

end PowerProduct.Modular
