/-!
# Decimal words

A word is a number below `2 ^ 64`. It is read from an optional plus sign and
one or more ASCII digits; leading zeros are allowed, and nothing else is.
-/

set_option autoImplicit false

namespace PowerProduct.Text

/-- The value of an ASCII decimal digit. -/
def decimalDigit? (c : Char) : Option Nat :=
  if '0' ≤ c ∧ c ≤ '9' then some (c.toNat - '0'.toNat) else none

/-- The value of a string of digits read after digits of value `front`. -/
def decimalValue? (front : Nat) : List Char → Option Nat
  | [] => some front
  | c :: rest => do decimalValue? (10 * front + (← decimalDigit? c)) rest

/-- The text without one plus sign at its front. -/
def dropPlus : List Char → List Char
  | '+' :: rest => rest
  | text => text

/-- The word that `text` denotes, if it denotes one. -/
def parseWord? (text : List Char) : Option Nat :=
  match dropPlus text with
  | [] => none
  | digits => (decimalValue? 0 digits).filter (· < UInt64.size)

end PowerProduct.Text
