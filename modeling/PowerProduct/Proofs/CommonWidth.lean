import Mathlib
import PowerProduct.Buffer

/-!
# Arrays of one width

The buffers of an array have one width, or there is a first buffer that differs
from the one at the front. The two exclude each other, and they are what
`commonWidth` decides (`commonWidth_of_uniform`, `commonWidth_of_firstRagged`).
-/

set_option autoImplicit false

namespace PowerProduct.Buffer

/-- The buffers have one width. -/
def Uniform (buffers : List Buffer) : Prop := ∀ a ∈ buffers, ∀ b ∈ buffers, a.length = b.length

/-- Buffer `index` is the first whose width, `actual`, differs from that of the
buffer at the front, `expected`. -/
structure FirstRagged (buffers : List Buffer) (index expected actual : Nat) : Prop where
  front : (buffers.map List.length)[0]? = some expected
  ragged : (buffers.map List.length)[index]? = some actual
  differs : actual ≠ expected
  least : ∀ earlier < index, (buffers.map List.length)[earlier]? = some expected

/-- Buffers that all have the width `width` have one width. -/
theorem Uniform.of_length {buffers : List Buffer} {width : Nat}
    (h : ∀ b ∈ buffers, b.length = width) : Uniform buffers :=
  fun a ha b hb => (h a ha).trans (h b hb).symm

theorem Uniform.perm {buffers buffers' : List Buffer} (hperm : buffers.Perm buffers')
    (h : Uniform buffers) : Uniform buffers' :=
  fun a ha b hb => h a (hperm.mem_iff.2 ha) b (hperm.mem_iff.2 hb)

/-- Only the widths decide. -/
theorem Uniform.of_widths {buffers buffers' : List Buffer}
    (hwidths : buffers.map List.length = buffers'.map List.length) (h : Uniform buffers) :
    Uniform buffers' := by
  have hsame : ∀ width ∈ buffers'.map List.length, ∀ width' ∈ buffers'.map List.length,
      width = width' := by
    rw [← hwidths]
    simpa [Uniform] using h
  intro a ha b hb
  exact hsame _ (List.mem_map_of_mem ha) _ (List.mem_map_of_mem hb)

namespace FirstRagged

variable {buffers : List Buffer} {index expected actual index' expected' actual' : Nat}

theorem of_widths {buffers' : List Buffer}
    (hwidths : buffers.map List.length = buffers'.map List.length)
    (h : FirstRagged buffers index expected actual) :
    FirstRagged buffers' index expected actual where
  front := hwidths ▸ h.front
  ragged := hwidths ▸ h.ragged
  differs := h.differs
  least := hwidths ▸ h.least

theorem not_uniform (h : FirstRagged buffers index expected actual) : ¬ Uniform buffers := by
  intro huniform
  obtain ⟨a, ha, hwidth⟩ := List.mem_map.1 (List.mem_of_getElem? h.front)
  obtain ⟨b, hb, hwidth'⟩ := List.mem_map.1 (List.mem_of_getElem? h.ragged)
  exact h.differs (by rw [← hwidth, ← hwidth', huniform b hb a ha])

/-- A ragged buffer does not come after another one. -/
theorem index_le (h : FirstRagged buffers index expected actual)
    (h' : FirstRagged buffers index' expected' actual') : index ≤ index' := by
  by_contra hlt
  -- otherwise the later one would still have the width of the front
  have hexpected : expected = expected' := Option.some.inj (h.front.symm.trans h'.front)
  have hactual : expected = actual' :=
    Option.some.inj ((h.least index' (Nat.lt_of_not_le hlt)).symm.trans h'.ragged)
  exact h'.differs (hactual.symm.trans hexpected)

theorem unique (h : FirstRagged buffers index expected actual)
    (h' : FirstRagged buffers index' expected' actual') :
    index = index' ∧ expected = expected' ∧ actual = actual' := by
  obtain rfl : index = index' := Nat.le_antisymm (h.index_le h') (h'.index_le h)
  exact ⟨rfl, Option.some.inj (h.front.symm.trans h'.front),
    Option.some.inj (h.ragged.symm.trans h'.ragged)⟩

end FirstRagged

/-- The outcome of `commonWidth` tells which of the two it is. -/
theorem commonWidth_cases (buffers : List Buffer) (array : String) :
    (Uniform buffers ∧ ∃ width, commonWidth buffers array = .ok width) ∨
      ∃ index expected actual, FirstRagged buffers index expected actual ∧
        commonWidth buffers array = refuse (.raggedWidth array index expected actual) := by
  cases buffers with
  | nil => exact Or.inl ⟨by simp [Uniform], 0, rfl⟩
  | cons first rest =>
      cases hfind : (first :: rest).zipIdx.find? fun entry => entry.1.length != first.length with
      | none =>
          left
          -- every buffer stands somewhere, and there it has passed the test
          have hsame : ∀ a ∈ first :: rest, a.length = first.length := by
            intro a ha
            obtain ⟨index, hget⟩ := List.mem_iff_getElem?.1 ha
            have hmem : (a, index) ∈ (first :: rest).zipIdx :=
              List.mem_zipIdx_iff_getElem?.2 hget
            simpa using List.find?_eq_none.1 hfind _ hmem
          refine ⟨fun a ha b hb => (hsame a ha).trans (hsame b hb).symm, first.length, ?_⟩
          simp only [commonWidth, hfind]
      | some entry =>
          obtain ⟨buffer, index⟩ := entry
          right
          obtain ⟨hdiffers, position, hposition, hentry, hbefore⟩ :=
            List.find?_eq_some_iff_getElem.1 hfind
          -- an entry of `zipIdx` carries its own position
          rw [List.getElem_zipIdx, Nat.zero_add, Prod.mk.injEq] at hentry
          obtain ⟨hbuffer, rfl⟩ := hentry
          rw [List.length_zipIdx] at hposition
          refine ⟨position, first.length, buffer.length, ⟨rfl, ?_, by simpa using hdiffers, ?_⟩, ?_⟩
          · rw [List.getElem?_map, List.getElem?_eq_getElem hposition, hbuffer, Option.map_some]
          · intro earlier hearlier
            have hlt : earlier < (first :: rest).length := hearlier.trans hposition
            have hsame := hbefore earlier hearlier
            rw [List.getElem_zipIdx] at hsame
            rw [List.getElem?_map, List.getElem?_eq_getElem hlt, Option.map_some]
            simpa using hsame
          · simp only [commonWidth, hfind]

theorem commonWidth_of_uniform {buffers : List Buffer} (h : Uniform buffers) (array : String) :
    ∃ width, commonWidth buffers array = .ok width := by
  rcases commonWidth_cases buffers array with ⟨-, hwidth⟩ | ⟨index, expected, actual, hragged, -⟩
  · exact hwidth
  · exact absurd h hragged.not_uniform

theorem commonWidth_of_firstRagged {buffers : List Buffer} {index expected actual : Nat}
    (h : FirstRagged buffers index expected actual) (array : String) :
    commonWidth buffers array = refuse (.raggedWidth array index expected actual) := by
  rcases commonWidth_cases buffers array with ⟨huniform, -⟩ | ⟨index', expected', actual', h', heq⟩
  · exact absurd huniform h.not_uniform
  · obtain ⟨rfl, rfl, rfl⟩ := h.unique h'
    exact heq

/-- Every array is of one kind or the other. -/
theorem uniform_or_firstRagged (buffers : List Buffer) :
    Uniform buffers ∨ ∃ index expected actual, FirstRagged buffers index expected actual := by
  rcases commonWidth_cases buffers "" with ⟨huniform, -⟩ | ⟨index, expected, actual, hragged, -⟩
  · exact Or.inl huniform
  · exact Or.inr ⟨index, expected, actual, hragged⟩

end PowerProduct.Buffer
