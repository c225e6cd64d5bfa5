import PowerProduct.Buffer
import PowerProduct.Text.Blank

/-!
# Hexadecimal text

A buffer is written with two lowercase digits for each byte. Reading is more
lenient: blanks around the digits, any number of marks `0x` in front of them,
capital letters, and an odd number of digits are accepted. A text that is not a
hexadecimal number is reported with its first byte that is not a digit.
-/

set_option autoImplicit false

namespace PowerProduct.Hex

/-! ## Digits -/

/-- The digit of a value below sixteen. -/
def digit (value : Nat) : Char := Nat.digitChar value

/-- The value of the ASCII digit with the code `byte`. -/
def digitValue? (byte : UInt8) : Option UInt8 :=
  if 0x30 ≤ byte ∧ byte ≤ 0x39 then some (byte - 0x30)
  else if 0x41 ≤ byte ∧ byte ≤ 0x46 then some (byte - 0x41 + 10)
  else if 0x61 ≤ byte ∧ byte ≤ 0x66 then some (byte - 0x61 + 10)
  else none

/-! ## Writing -/

/-- The two digits of a byte. -/
def encodeByte (byte : UInt8) : List Char := [digit (byte.toNat / 16), digit (byte.toNat % 16)]

/-- The digits of a buffer. -/
def encode (buffer : Buffer) : String := String.ofList (buffer.flatMap encodeByte)

/-! ## Reading pairs of digits -/

/-- Why a sequence of bytes is not a sequence of pairs of digits. -/
inductive DigitError where
  /-- The number of bytes is odd. -/
  | oddLength
  /-- The byte at `position` is not a digit. -/
  | invalidByte (byte : UInt8) (position : Nat)
  deriving DecidableEq, Repr

/-- The text of the error. A byte is shown as the character of its number. -/
def DigitError.message : DigitError → String
  | oddLength => "Odd number of digits"
  | invalidByte byte position =>
      s!"Invalid character {Text.quoteChar (Char.ofNat byte.toNat)} at position {position}"

/-- The value of the digit at `position`. -/
def readDigit (position : Nat) (byte : UInt8) : Except DigitError UInt8 :=
  match digitValue? byte with
  | some value => .ok value
  | none => .error (.invalidByte byte position)

/-- The bytes of pairs of digits, of which the first stands at `position`. -/
def readPairs (position : Nat) : List UInt8 → Except DigitError Buffer
  | high :: low :: rest => do
      let highValue ← readDigit position high
      let lowValue ← readDigit (position + 1) low
      return (16 * highValue + lowValue) :: (← readPairs (position + 2) rest)
  | _ => .ok []

/-- The buffer that an even number of digits denotes. -/
def decode (digits : List UInt8) : Except DigitError Buffer :=
  if digits.length % 2 = 1 then .error .oddLength else readPairs 0 digits

/-! ## Reading numbers -/

/-- The text without the marks `0x` at its front. -/
def dropMarks : List Char → List Char
  | '0' :: 'x' :: rest => dropMarks rest
  | text => text

/-- The part of a text that has to consist of digits. -/
def numeral (text : List Char) : List Char := dropMarks (Text.trim text)

/-- The bytes of a numeral in UTF-8, made even in number by a digit zero. -/
def evenBytes (numeral : List Char) : List UInt8 :=
  let bytes := numeral.flatMap String.utf8EncodeChar
  if bytes.length % 2 = 1 then 0x30 :: bytes else bytes

/-- A text whose numeral is not hexadecimal, with the reason. -/
structure Invalid where
  numeral : List Char
  reason : DigitError
  deriving DecidableEq, Repr

/-- The text of the error, without its reason. -/
def Invalid.message (invalid : Invalid) : String :=
  s!"invalid hex value {Text.quote (String.ofList invalid.numeral)}"

/-- The buffer that a text denotes. -/
def parse (text : String) : Except Invalid Buffer :=
  let digits := numeral text.toList
  match decode (evenBytes digits) with
  | .ok buffer => .ok buffer
  | .error reason => .error ⟨digits, reason⟩

end PowerProduct.Hex
