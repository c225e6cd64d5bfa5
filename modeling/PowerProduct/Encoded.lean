import PowerProduct.Engine

/-!
# Requests over buffers

The operations on big-endian buffers. A result is as wide as the modulus is
given, with zeros in front. The buffers of one array have a common width, which
need not be the width of the modulus.
-/

set_option autoImplicit false

namespace PowerProduct.Encoded

/-- The number of a modulus, which has to be positive. -/
def decodeModulus (modulus : Buffer) : Outcome Nat := do
  let value := Buffer.decode modulus modulus.length
  requireModulus value
  return value

/-- The product of the powers of all pairs, evaluated as `config` says. -/
def powerProductWith (config : Config) (bases exponents : List Buffer) (modulus : Buffer) :
    Outcome Buffer := do
  let pairs ← BufferPairs.ofBuffers bases exponents
  let divisor ← decodeModulus modulus
  let result ← (Engine.evaluate pairs.reader divisor config).outcome
  Buffer.encode result modulus.length

/-- The product of the powers of all pairs by one strategy, with the other
settings at their defaults. -/
def powerProductBy (strategy : Strategy) (bases exponents : List Buffer) (modulus : Buffer) :
    Outcome Buffer :=
  powerProductWith { strategy } bases exponents modulus

/-- The product of two numbers. -/
def product (a b modulus : Buffer) : Outcome Buffer := do
  let divisor ← decodeModulus modulus
  let result ←
    Modular.product (Buffer.decode a a.length) (Buffer.decode b b.length) divisor
  Buffer.encode result modulus.length

/-- The product of all numbers of a list. -/
def productAll (values : List Buffer) (modulus : Buffer) : Outcome Buffer := do
  if values.isEmpty then refuse .noPairs
  let width ← Buffer.commonWidth values "values"
  let divisor ← decodeModulus modulus
  let result ← Modular.productAll (Buffer.decodeAll values width) divisor
  Buffer.encode result modulus.length

/-- The power of each pair. -/
def powers (bases exponents : List Buffer) (modulus : Buffer) : Outcome (List Buffer) := do
  requirePairs bases.length exponents.length
  let baseWidth ← Buffer.commonWidth bases "bases"
  let exponentWidth ← Buffer.commonWidth exponents "exponents"
  let divisor ← decodeModulus modulus
  let results ← Modular.powers (Buffer.decodeAll bases baseWidth)
    (Buffer.decodeAll exponents exponentWidth) divisor
  results.mapM fun result => Buffer.encode result modulus.length

end PowerProduct.Encoded
