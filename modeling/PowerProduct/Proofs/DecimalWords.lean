import Mathlib
import PowerProduct.Text.Decimal

/-!
# Decimal numerals

A decimal numeral is one or more ASCII digits, with at most one plus sign in
front of them and any number of zeros. `parseWord?` reads exactly the numerals
of numbers below `2 ^ 64` (`parseWord?_eq_some_iff`).
-/

set_option autoImplicit false

namespace PowerProduct.Text

/-- The number that digits denote in base ten. -/
def decimalNumber (digits : List Char) : Nat :=
  Nat.ofDigits 10 (digits.reverse.map fun c => c.toNat - '0'.toNat)

/-- `text` is a decimal numeral of `value`. -/
def Decimal (text : List Char) (value : Nat) : Prop :=
  ∃ digits, (text = digits ∨ text = '+' :: digits) ∧ digits ≠ [] ∧
    (∀ c ∈ digits, c.isDigit = true) ∧ decimalNumber digits = value

theorem decimalNumber_cons (c : Char) (rest : List Char) :
    decimalNumber (c :: rest) =
      (c.toNat - '0'.toNat) * 10 ^ rest.length + decimalNumber rest := by
  rw [decimalNumber, List.reverse_cons, List.map_append, Nat.ofDigits_append, List.map_singleton,
    Nat.ofDigits_singleton, List.length_map, List.length_reverse, ← decimalNumber]
  ring

theorem decimalDigit?_of_isDigit {c : Char} (h : c.isDigit = true) :
    decimalDigit? c = some (c.toNat - '0'.toNat) := by
  have hrange : '0' ≤ c ∧ c ≤ '9' := by
    simpa [Char.isDigit, Char.le_def] using h
  rw [decimalDigit?, if_pos hrange]

theorem decimalDigit?_of_not_isDigit {c : Char} (h : ¬ c.isDigit = true) :
    decimalDigit? c = none := by
  have hrange : ¬ ('0' ≤ c ∧ c ≤ '9') := by
    intro hrange
    exact h (by simpa [Char.isDigit, Char.le_def] using hrange)
  rw [decimalDigit?, if_neg hrange]

/-- Digits are read after digits of value `front` as if they stood together. -/
theorem decimalValue?_of_digits {digits : List Char} (h : ∀ c ∈ digits, c.isDigit = true)
    (front : Nat) : decimalValue? front digits =
      some (front * 10 ^ digits.length + decimalNumber digits) := by
  induction digits generalizing front with
  | nil => simp [decimalValue?, decimalNumber]
  | cons c rest ih =>
      obtain ⟨hc, hrest⟩ := List.forall_mem_cons.1 h
      rw [decimalValue?, decimalDigit?_of_isDigit hc, Option.bind_eq_bind, Option.bind_some,
        ih hrest, decimalNumber_cons, List.length_cons, pow_succ]
      apply congrArg some
      ring

theorem isDigit_of_decimalValue? {digits : List Char} {front value : Nat}
    (h : decimalValue? front digits = some value) : ∀ c ∈ digits, c.isDigit = true := by
  induction digits generalizing front with
  | nil => simp
  | cons c rest ih =>
      by_cases hc : c.isDigit = true
      · rw [decimalValue?, decimalDigit?_of_isDigit hc] at h
        exact List.forall_mem_cons.2 ⟨hc, ih h⟩
      · -- a character that is not a digit would have ended the reading
        rw [decimalValue?, decimalDigit?_of_not_isDigit hc] at h
        cases h

theorem dropPlus_of_digits {digits : List Char} (h : ∀ c ∈ digits, c.isDigit = true) :
    dropPlus digits = digits := by
  unfold dropPlus
  split
  case h_1 rest => exact absurd (h '+' (by simp)) (by decide)
  case h_2 => rfl

/-- The digits of a numeral are what stands behind its sign. -/
theorem decimal_iff_dropPlus {text : List Char} {value : Nat} :
    Decimal text value ↔ dropPlus text ≠ [] ∧ (∀ c ∈ dropPlus text, c.isDigit = true) ∧
      decimalNumber (dropPlus text) = value := by
  constructor
  · rintro ⟨digits, rfl | rfl, hne, hdigits, hvalue⟩
    · rw [dropPlus_of_digits hdigits]
      exact ⟨hne, hdigits, hvalue⟩
    · exact ⟨hne, hdigits, hvalue⟩
  · intro h
    refine ⟨dropPlus text, ?_, h⟩
    unfold dropPlus
    split
    · exact Or.inr rfl
    · exact Or.inl rfl

/-- Exactly the numerals of numbers below `2 ^ 64` are read. -/
theorem parseWord?_eq_some_iff {text : List Char} {value : Nat} :
    parseWord? text = some value ↔ Decimal text value ∧ value < 2 ^ 64 := by
  rw [decimal_iff_dropPlus, parseWord?]
  split
  case h_1 hnone => simp [hnone]
  case h_2 hsome =>
    rw [Option.filter_eq_some_iff, decide_eq_true_iff]
    apply and_congr_left
    intro _
    constructor
    · intro hvalue
      have hdigits := isDigit_of_decimalValue? hvalue
      rw [decimalValue?_of_digits hdigits, Nat.zero_mul, Nat.zero_add, Option.some.injEq] at hvalue
      exact ⟨hsome, hdigits, hvalue⟩
    · rintro ⟨-, hdigits, hvalue⟩
      rw [decimalValue?_of_digits hdigits, Nat.zero_mul, Nat.zero_add, hvalue]

end PowerProduct.Text
