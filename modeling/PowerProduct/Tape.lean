import PowerProduct.Buffer

/-!
# Byte tapes

A tape is an endless sequence of bytes with a position up to which it has been
read. `draw` takes a number of a given bit count off the tape: as many whole
bytes as the bits need, with the surplus bits of the first byte cleared.
-/

set_option autoImplicit false

namespace PowerProduct

/-- An endless sequence of bytes, read up to `position`. -/
structure Tape where
  byte : Nat → UInt8
  position : Nat := 0

namespace Tape

/-- The next `count` bytes. -/
def peek (tape : Tape) (count : Nat) : Buffer :=
  (List.range count).map fun offset => tape.byte (tape.position + offset)

/-- The tape after the next `count` bytes. -/
def advance (tape : Tape) (count : Nat) : Tape :=
  { tape with position := tape.position + count }

/-- The bytes with all but the lowest `bits` bits of the first one cleared. -/
def maskFirst (bits : Nat) : Buffer → Outcome Buffer
  | [] => abort (.indexOutOfBounds 0 0)
  | first :: rest => .ok ((first &&& ((1 <<< UInt8.ofNat bits) - 1)) :: rest)

/-- A number of at most `bits` bits off the tape, and the tape after it. -/
def draw (tape : Tape) (bits : Nat) : Outcome (Buffer × Tape) := do
  let bytes := tape.peek (byteCount bits)
  let rest := tape.advance (byteCount bits)
  if bits % 8 = 0 then return (bytes, rest)
  return (← maskFirst (bits % 8) bytes, rest)

/-- Numbers of the given bit counts off the tape, one after the other. -/
def drawAll : Tape → List Nat → Outcome (List Buffer × Tape)
  | tape, [] => .ok ([], tape)
  | tape, bits :: rest => do
      let (buffer, tape) ← tape.draw bits
      let (buffers, tape) ← drawAll tape rest
      return (buffer :: buffers, tape)

/-- The tape that repeats `pattern`. -/
def cycle (pattern : Buffer) : Tape where
  byte index := pattern.getD (index % pattern.length) 0

end Tape

end PowerProduct
