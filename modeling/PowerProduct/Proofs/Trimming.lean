import Mathlib
import PowerProduct.Text.Blank

/-!
# Trimmed text

A trimmed text is what is left between the blanks at the ends: only blanks stand
around it, and it neither begins nor ends with one. There is exactly one such
part of a text, and `trim` yields it (`trim_eq_iff`).
-/

set_option autoImplicit false

namespace PowerProduct.Text

/-- `core` is `text` without the blanks at its ends. -/
structure Trimmed (text core : List Char) : Prop where
  split : ∃ front back, text = front ++ core ++ back ∧
    (∀ c ∈ front, isBlank c = true) ∧ ∀ c ∈ back, isBlank c = true
  head_not_blank : ∀ c ∈ core.head?, isBlank c = false
  last_not_blank : ∀ c ∈ core.getLast?, isBlank c = false

theorem dropWhile_eq_self_of_head? {p : Char → Bool} {text : List Char}
    (h : ∀ c ∈ text.head?, p c = false) : text.dropWhile p = text := by
  cases text with
  | nil => rfl
  | cons c rest => simp [h c rfl]

theorem head?_dropWhile (p : Char → Bool) (text : List Char) :
    ∀ c ∈ (text.dropWhile p).head?, p c = false := by
  intro c hc
  have hhead := List.head?_dropWhile_not p text
  rw [Option.mem_def.1 hc] at hhead
  exact hhead

section Ends

variable {front core back : List Char}

theorem trimStart_append (hfront : ∀ c ∈ front, isBlank c = true) (rest : List Char) :
    trimStart (front ++ rest) = trimStart rest :=
  List.dropWhile_append_of_pos hfront

theorem trimStart_of_blank (h : ∀ c ∈ back, isBlank c = true) : trimStart back = [] :=
  List.dropWhile_eq_nil_iff.2 h

theorem trimEnd_append (hback : ∀ c ∈ back, isBlank c = true)
    (h : ∀ c ∈ core.getLast?, isBlank c = false) : trimEnd (core ++ back) = core := by
  have hback' : ∀ c ∈ back.reverse, isBlank c = true := by
    intro c hc
    exact hback c (List.mem_reverse.1 hc)
  have hlast : ∀ c ∈ core.reverse.head?, isBlank c = false := by
    rw [List.head?_reverse]
    exact h
  rw [trimEnd, List.reverse_append, List.dropWhile_append_of_pos hback',
    dropWhile_eq_self_of_head? hlast, List.reverse_reverse]

/-- What is left at the end of a text is a front part of it, with blanks behind. -/
theorem eq_trimEnd_append (text : List Char) :
    ∃ back, text = trimEnd text ++ back ∧ ∀ c ∈ back, isBlank c = true := by
  refine ⟨(text.reverse.takeWhile isBlank).reverse, ?_, ?_⟩
  · rw [trimEnd, ← List.reverse_append, List.takeWhile_append_dropWhile, List.reverse_reverse]
  · intro c hc
    exact List.mem_takeWhile_imp (List.mem_reverse.1 hc)

theorem getLast?_trimEnd (text : List Char) :
    ∀ c ∈ (trimEnd text).getLast?, isBlank c = false := by
  rw [trimEnd, List.getLast?_reverse]
  exact head?_dropWhile isBlank text.reverse

end Ends

theorem trim_of_trimmed {text core : List Char} (h : Trimmed text core) : trim text = core := by
  obtain ⟨front, back, rfl, hfront, hback⟩ := h.split
  rw [trim, List.append_assoc, trimStart_append hfront]
  cases core with
  | nil =>
      -- nothing but blanks
      rw [List.nil_append, trimStart_of_blank hback]
      rfl
  | cons c rest =>
      -- the first character stops the trimming of the front
      have hhead : ∀ d ∈ (c :: rest ++ back).head?, isBlank d = false := by
        simpa using h.head_not_blank
      rw [trimStart, dropWhile_eq_self_of_head? hhead, trimEnd_append hback h.last_not_blank]

theorem trimmed_trim (text : List Char) : Trimmed text (trim text) := by
  obtain ⟨back, hsplit, hback⟩ := eq_trimEnd_append (trimStart text)
  refine ⟨⟨text.takeWhile isBlank, back, ?_, ?_, hback⟩, ?_, getLast?_trimEnd _⟩
  · rw [List.append_assoc, trim, ← hsplit, trimStart, List.takeWhile_append_dropWhile]
  · intro c hc
    exact List.mem_takeWhile_imp hc
  · -- the first character is the first one of the text behind its blanks
    intro c hc
    apply head?_dropWhile isBlank text
    rw [← trimStart, hsplit, List.head?_append, ← trim, Option.mem_def.1 hc]
    rfl

/-- Trimming yields the part of a text between its blanks. -/
theorem trim_eq_iff {text core : List Char} : trim text = core ↔ Trimmed text core := by
  constructor
  · rintro rfl
    exact trimmed_trim text
  · exact trim_of_trimmed

end PowerProduct.Text
