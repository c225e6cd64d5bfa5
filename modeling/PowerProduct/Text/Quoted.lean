import PowerProduct.Text.Combining
import PowerProduct.Text.Unprintable

/-!
# Quoted text

A text in an error message stands between quotation marks, with every character
that a reader could not see or could mistake written as an escape. A string
stands in double quotes and a single character in single quotes; only the mark
in use is escaped.
-/

set_option autoImplicit false

namespace PowerProduct.Text

/-- The two quotation marks. -/
inductive QuoteMark where
  | single
  | double
  deriving DecidableEq, Repr

/-- The character of a quotation mark. -/
def QuoteMark.char : QuoteMark → Char
  | .single => '\x27'
  | .double => '\x22'

/-- The escape of a character by its number: lowercase hexadecimal, without
leading zeros, in braces. -/
def numericEscape (c : Char) : List Char :=
  ['\\', 'u', '\x7b'] ++ Nat.toDigits 16 c.toNat ++ ['\x7d']

/-- The written form of one character between two marks `mark`. -/
def escapeChar (mark : QuoteMark) (c : Char) : List Char :=
  if c = '\x00' then ['\\', '0']
  else if c = '\t' then ['\\', 't']
  else if c = '\r' then ['\\', 'r']
  else if c = '\n' then ['\\', 'n']
  else if c = '\\' then ['\\', '\\']
  else if c = mark.char then ['\\', mark.char]
  else if isCombining c || isUnprintable c then numericEscape c
  else [c]

/-- The characters of `text` written between two marks `mark`. -/
def quoteWith (mark : QuoteMark) (text : List Char) : List Char :=
  mark.char :: text.flatMap (escapeChar mark) ++ [mark.char]

/-- A string in double quotes. -/
def quote (text : String) : String := String.ofList (quoteWith .double text.toList)

/-- A character in single quotes. -/
def quoteChar (c : Char) : String := String.ofList (quoteWith .single [c])

end PowerProduct.Text
