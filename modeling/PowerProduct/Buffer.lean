import PowerProduct.Error

/-!
# Byte buffers

A buffer is an unsigned number in big-endian base 256. The empty buffer is
zero, and bytes that are zero at the front do not change the number. Reading a
buffer never fails. Writing a number fills a whole buffer, and a number that
does not fit leaves the buffer as it was.
-/

set_option autoImplicit false

namespace PowerProduct

/-- A number in big-endian base 256, the highest byte first. -/
abbrev Buffer := List UInt8

/-- The number of bytes that hold a number of `bits` significant bits. -/
def byteCount (bits : Nat) : Nat := (bits + 7) / 8

/-- The number of significant bits: the position above the highest bit that is
set, and zero for zero. -/
def bitLength (x : Nat) : Nat := if x = 0 then 0 else Nat.log2 x + 1

namespace Buffer

/-! ## Reading -/

/-- The number in a buffer, read after bytes of value `front`. -/
def valueFrom (front : Nat) : Buffer → Nat
  | [] => front
  | byte :: rest => valueFrom (256 * front + byte.toNat) rest

/-- The number that a buffer holds. -/
def value (buffer : Buffer) : Nat := valueFrom 0 buffer

/-- The number in a buffer that comes from an array of buffers of the width
`_declaredWidth`. The width is for information only. -/
def decode (buffer : Buffer) (_declaredWidth : Nat) : Nat := value buffer

/-- The numbers in an array of buffers. -/
def decodeAll (buffers : List Buffer) (declaredWidth : Nat) : List Nat :=
  buffers.map fun buffer => decode buffer declaredWidth

/-! ## Writing -/

/-- The bytes of `x` without zeros at the front, followed by `rest`. -/
def bytesOnto (x : Nat) (rest : Buffer) : Buffer :=
  if x = 0 then rest else bytesOnto (x / 256) (UInt8.ofNat x :: rest)
termination_by x
decreasing_by omega

/-- The bytes of a number, without zeros at the front. -/
def ofNat (x : Nat) : Buffer := bytesOnto x []

/-- The digits of a number in base 256, at least one: zero is written as the
digit zero. -/
def digits (x : Nat) : Buffer := if x = 0 then [0] else ofNat x

/-- The bytes of `source` copied over those of `target`. -/
def copyOver (source target : Buffer) : Outcome Buffer :=
  if source.length = target.length then .ok source
  else abort (.copyLength source.length target.length)

/-- What a write leaves behind: whether it succeeded, and the whole buffer. -/
structure Written where
  outcome : Outcome Unit
  buffer : Buffer

/-- Writes `x` into `buffer`, with zeros in front of its bytes. A number that
needs more bytes than the buffer has is refused, and the buffer keeps its
bytes. -/
def write (x : Nat) (buffer : Buffer) : Written :=
  let needed := byteCount (bitLength x)
  if buffer.length < needed then ⟨refuse (.overflow needed buffer.length), buffer⟩
  else
    let offset := buffer.length - needed
    let padding : Buffer := List.replicate offset 0
    -- zero needs no byte, so its one digit would not fit behind the padding
    if x = 0 then ⟨.ok (), padding ++ buffer.drop offset⟩
    else
      match copyOver (digits x) (buffer.drop offset) with
      | .ok copied => ⟨.ok (), padding ++ copied⟩
      | .error failure => ⟨.error failure, padding ++ buffer.drop offset⟩

/-- The buffers after each of a run of writes into one buffer. -/
def writeAll : List Nat → Buffer → List Written
  | [], _ => []
  | x :: rest, buffer =>
      let written := write x buffer
      written :: writeAll rest written.buffer

/-- The number `x` as a buffer of `width` bytes. -/
def encode (x width : Nat) : Outcome Buffer :=
  let written := write x (List.replicate width 0)
  written.outcome.map fun _ => written.buffer

/-! ## Arrays of buffers -/

/-- The common width of an array of buffers, which an error calls `array`. An
array without buffers has width zero; otherwise the first buffer that differs
from the one at the front is reported. -/
def commonWidth (buffers : List Buffer) (array : String) : Outcome Nat :=
  match buffers with
  | [] => .ok 0
  | first :: _ =>
      let expected := first.length
      match buffers.zipIdx.find? fun entry => entry.1.length != expected with
      | some (buffer, index) => refuse (.raggedWidth array index expected buffer.length)
      | none => .ok expected

/-- The width of the longest buffer, and zero if there is none. -/
def maxWidth (buffers : List Buffer) : Nat := buffers.foldl (fun width b => max width b.length) 0

/-- The buffer with zeros put in front up to `width` bytes. -/
def padTo (width : Nat) (buffer : Buffer) : Buffer :=
  List.replicate (width - buffer.length) 0 ++ buffer

/-- The buffers with zeros put in front up to the width of the longest. -/
def align (buffers : List Buffer) : List Buffer := buffers.map (padTo (maxWidth buffers))

/-! ## The number of a buffer -/

theorem valueFrom_append (front : Nat) (a b : Buffer) :
    valueFrom front (a ++ b) = valueFrom (valueFrom front a) b := by
  induction a generalizing front with
  | nil => rfl
  | cons byte rest ih => exact ih _

@[simp] theorem valueFrom_replicate_zero (count : Nat) :
    valueFrom 0 (List.replicate count 0) = 0 := by
  induction count with
  | zero => rfl
  | succ count ih => simpa [List.replicate_succ, valueFrom] using ih

/-- Zeros at the front do not change the number. -/
@[simp] theorem value_padTo (width : Nat) (buffer : Buffer) :
    value (padTo width buffer) = value buffer := by
  simp [value, padTo, valueFrom_append]

/-- The bytes of `x` in front of `rest` read back as the number `x`, continued
by `rest`. -/
theorem valueFrom_bytesOnto (x : Nat) (rest : Buffer) :
    valueFrom 0 (bytesOnto x rest) = valueFrom x rest := by
  fun_induction bytesOnto x rest with
  | case1 rest => rfl
  | case2 x rest hx ih =>
      rw [ih]
      simp [valueFrom, Nat.div_add_mod]

/-- Reading undoes writing. -/
@[simp] theorem value_ofNat (x : Nat) : value (ofNat x) = x := valueFrom_bytesOnto x []

end Buffer

end PowerProduct
