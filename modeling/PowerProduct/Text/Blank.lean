import PowerProduct.Text.CodeRange

/-!
# Blank characters and trimming

A character is blank when it has the property White_Space. The class is wider
than the ASCII blanks: it has the next-line control, the no-break space and the
typographic spaces, and it has neither the zero-width space nor the unit
separator.
-/

set_option autoImplicit false

namespace PowerProduct.Text

/-- The ranges of the property White_Space. -/
def blankRanges : List CodeRange :=
  [⟨0x0009, 0x000d⟩, ⟨0x0020, 0x0020⟩, ⟨0x0085, 0x0085⟩, ⟨0x00a0, 0x00a0⟩, ⟨0x1680, 0x1680⟩,
   ⟨0x2000, 0x200a⟩, ⟨0x2028, 0x2029⟩, ⟨0x202f, 0x202f⟩, ⟨0x205f, 0x205f⟩, ⟨0x3000, 0x3000⟩]

/-- The character has the property White_Space. -/
def isBlank (c : Char) : Bool := CodeRange.covers blankRanges c

/-- The text without the blanks at its front. -/
def trimStart (text : List Char) : List Char := text.dropWhile isBlank

/-- The text without the blanks at its end. -/
def trimEnd (text : List Char) : List Char := (text.reverse.dropWhile isBlank).reverse

/-- The text without the blanks at either end. -/
def trim (text : List Char) : List Char := trimEnd (trimStart text)

@[simp] theorem trim_nil : trim [] = [] := rfl

end PowerProduct.Text
