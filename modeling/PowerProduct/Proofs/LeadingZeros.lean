import Mathlib
import PowerProduct.Proofs.ElementwiseProducts

/-!
# Zeros in front

Zeros in front of a buffer change its width and not its number
(`value_widen`). When every buffer of an array gets as many, the array stays
uniform, or its first ragged buffer stays where it was (`FirstRagged.widen`).
So a request of wider buffers is refused for the same reason as before
(`Refusal.widen`), and otherwise its result has the same digits at the width of
the wider modulus (`padTo_mod_value_widen`). The main statement
`widened_requests` says this of all operations on buffers.
-/

set_option autoImplicit false

namespace PowerProduct

/-! ## Errors of wider buffers -/

namespace Error

/-- An error without the numbers and the texts it carries. -/
inductive Variant where
  | noPairs
  | lengthMismatch
  | raggedWidth
  | zeroModulus
  | windowOutOfRange
  | badSetting
  | overflow
  | outOfStorage
  deriving DecidableEq, Repr

/-- The variant of an error. -/
def variant : Error → Variant
  | noPairs => .noPairs
  | lengthMismatch .. => .lengthMismatch
  | raggedWidth .. => .raggedWidth
  | zeroModulus => .zeroModulus
  | windowOutOfRange .. => .windowOutOfRange
  | badSetting .. => .badSetting
  | overflow .. => .overflow
  | outOfStorage .. => .outOfStorage

/-- The error when each buffer of an array has `extra` more bytes, by the name
of the array. -/
def widen (extra : String → Nat) : Error → Error
  | raggedWidth array index expected actual =>
      raggedWidth array index (extra array + expected) (extra array + actual)
  | e => e

theorem variant_widen (extra : String → Nat) (e : Error) : (e.widen extra).variant = e.variant := by
  cases e <;> rfl

end Error

/-- The outcomes of a request and of the same request with wider buffers. Both
are results, and the second is the `image` of the first, or both are refusals
that differ in the widths they report. -/
inductive Widened {α : Type} (extra : String → Nat) (image : α → α) :
    Outcome α → Outcome α → Prop where
  | result (a : α) : Widened extra image (.ok a) (.ok (image a))
  | refusal (e : Error) : Widened extra image (refuse e) (refuse (e.widen extra))

/-! ## Wider buffers -/

namespace Buffer

/-- The buffer with `extra` zeros in front. -/
def widen (extra : Nat) (buffer : Buffer) : Buffer := List.replicate extra 0 ++ buffer

theorem length_widen (extra : Nat) (buffer : Buffer) :
    (widen extra buffer).length = extra + buffer.length := by
  rw [widen, List.length_append, List.length_replicate]

@[simp] theorem value_widen (extra : Nat) (buffer : Buffer) :
    value (widen extra buffer) = value buffer := by
  rw [value, widen, valueFrom_append, valueFrom_replicate_zero, value]

theorem map_value_widen (extra : Nat) (buffers : List Buffer) :
    (buffers.map (widen extra)).map value = buffers.map value := by
  rw [List.map_map]
  exact List.map_congr_left fun buffer _ => value_widen extra buffer

theorem map_length_widen (extra : Nat) (buffers : List Buffer) :
    (buffers.map (widen extra)).map List.length = (buffers.map List.length).map (extra + ·) := by
  rw [List.map_map, List.map_map]
  exact List.map_congr_left fun buffer _ => length_widen extra buffer

/-- Zeros that fill a buffer up to a larger width stand in front of those that
fill it up to the width. -/
theorem padTo_add {width : Nat} {buffer : Buffer} (h : buffer.length ≤ width) (extra : Nat) :
    padTo (extra + width) buffer = widen extra (padTo width buffer) := by
  rw [padTo, padTo, widen, Nat.add_sub_assoc h, ← List.replicate_append_replicate,
    List.append_assoc]

/-- A remainder by a wider modulus has zeros in front of its bytes. -/
theorem padTo_mod_value_widen {modulus : Buffer} (hm : 0 < modulus.value) (extra x : Nat) :
    padTo (widen extra modulus).length (ofNat (x % modulus.value)) =
      widen extra (padTo modulus.length (ofNat (x % modulus.value))) := by
  have hfits : (ofNat (x % modulus.value)).length ≤ modulus.length := by
    rw [length_ofNat, byteCount_bitLength_le_iff]
    exact (Nat.mod_lt x hm).trans (value_lt modulus)
  rw [length_widen, padTo_add hfits]

theorem Uniform.widen {buffers : List Buffer} (h : Uniform buffers) (extra : Nat) :
    Uniform (buffers.map (widen extra)) := by
  intro wide hwide wide' hwide'
  obtain ⟨a, ha, rfl⟩ := List.mem_map.1 hwide
  obtain ⟨b, hb, rfl⟩ := List.mem_map.1 hwide'
  rw [length_widen, length_widen, h a ha b hb]

theorem FirstRagged.widen {buffers : List Buffer} {index expected actual : Nat}
    (h : FirstRagged buffers index expected actual) (extra : Nat) :
    FirstRagged (buffers.map (widen extra)) index (extra + expected) (extra + actual) where
  front := by rw [map_length_widen, List.getElem?_map, h.front, Option.map_some]
  ragged := by rw [map_length_widen, List.getElem?_map, h.ragged, Option.map_some]
  differs := fun heq => h.differs (Nat.add_left_cancel heq)
  least := by
    intro earlier hearlier
    rw [map_length_widen, List.getElem?_map, h.least earlier hearlier, Option.map_some]

end Buffer

/-! ## Requests of wider buffers -/

namespace Encoded

open Buffer

/-- The zeros in front of the buffers of a request, by the name of the array. -/
def extraOf (baseExtra exponentExtra : Nat) (array : String) : Nat :=
  if array = "bases" then baseExtra else exponentExtra

theorem numberPairs_widen (i j : Nat) (bases exponents : List Buffer) :
    numberPairs (bases.map (widen i)) (exponents.map (widen j)) = numberPairs bases exponents := by
  rw [numberPairs, map_value_widen, map_value_widen, numberPairs]

theorem WellShaped.widen {bases exponents : List Buffer} (h : WellShaped bases exponents)
    (i j : Nat) : WellShaped (bases.map (widen i)) (exponents.map (widen j)) where
  nonempty := by simpa using h.nonempty
  length_eq := by simpa using h.length_eq
  uniform_bases := h.uniform_bases.widen i
  uniform_exponents := h.uniform_exponents.widen j

theorem zeros_widen {modulus : Buffer} (h : ∀ byte ∈ modulus, byte = 0) (k : Nat) :
    ∀ byte ∈ widen k modulus, byte = 0 := by
  rw [← value_eq_zero_iff] at h ⊢
  rw [value_widen, h]

/-- A request of wider buffers is refused for the same reason. -/
theorem Refusal.widen {bases exponents : List Buffer} {modulus : Buffer} {e : Error}
    (h : Refusal bases exponents modulus e) (i j k : Nat) :
    Refusal (bases.map (widen i)) (exponents.map (widen j)) (widen k modulus)
      (e.widen (extraOf i j)) := by
  have hlength : (bases.map (Buffer.widen i)).length = bases.length := List.length_map _
  have hlength' : (exponents.map (Buffer.widen j)).length = exponents.length := List.length_map _
  have hnonempty : bases ≠ [] → bases.map (Buffer.widen i) ≠ [] := by simp
  cases h with
  | noPairs hnil =>
      subst hnil
      exact .noPairs rfl
  | lengthMismatch hne hlen =>
      -- the error counts buffers, of which there are as many as before
      have hmismatch : Refusal (bases.map (Buffer.widen i)) (exponents.map (Buffer.widen j))
          (Buffer.widen k modulus) (.lengthMismatch (bases.map (Buffer.widen i)).length
            (exponents.map (Buffer.widen j)).length) :=
        .lengthMismatch (hnonempty hne) (by rw [hlength, hlength']; exact hlen)
      rwa [hlength, hlength'] at hmismatch
  | raggedBases hne hlen hragged =>
      exact .raggedBases (hnonempty hne) (by rw [hlength, hlength', hlen]) (hragged.widen i)
  | raggedExponents hne hlen huniform hragged =>
      exact .raggedExponents (hnonempty hne) (by rw [hlength, hlength', hlen])
        (huniform.widen i) (hragged.widen j)
  | zeroModulus hshape hzero => exact .zeroModulus (hshape.widen i j) (zeros_widen hzero k)

theorem ValuesRefusal.widen {values : List Buffer} {modulus : Buffer} {e : Error}
    (h : ValuesRefusal values modulus e) (i k : Nat) :
    ValuesRefusal (values.map (widen i)) (widen k modulus) (e.widen fun _ => i) := by
  cases h with
  | noValues hnil =>
      subst hnil
      exact .noValues rfl
  | raggedValues hragged => exact .raggedValues (hragged.widen i)
  | zeroModulus hne huniform hzero =>
      exact .zeroModulus (by simpa using hne) (huniform.widen i) (zeros_widen hzero k)

section Operations

variable (i j k : Nat) (modulus : Buffer)

theorem powerProductWith_widen (config : Config) (bases exponents : List Buffer) :
    Widened (extraOf i j) (widen k) (powerProductWith config bases exponents modulus)
      (powerProductWith config (bases.map (widen i)) (exponents.map (widen j))
        (widen k modulus)) := by
  rcases refusal_or_wellShaped bases exponents modulus with ⟨e, hrefusal⟩ | ⟨hshape, hm⟩
  · rw [powerProductWith_of_refusal hrefusal, powerProductWith_of_refusal (hrefusal.widen i j k)]
    exact .refusal e
  · have hm' : 0 < (widen k modulus).value := by rwa [value_widen]
    rw [powerProductWith_of_wellShaped hshape hm,
      powerProductWith_of_wellShaped (hshape.widen i j) hm', numberPairs_widen, value_widen,
      padTo_mod_value_widen hm]
    split
    · exact .result _
    · exact .refusal _

theorem powers_widen (bases exponents : List Buffer) :
    Widened (extraOf i j) (List.map (widen k)) (powers bases exponents modulus)
      (powers (bases.map (widen i)) (exponents.map (widen j)) (widen k modulus)) := by
  rcases refusal_or_wellShaped bases exponents modulus with ⟨e, hrefusal⟩ | ⟨hshape, hm⟩
  · rw [powers_of_refusal hrefusal, powers_of_refusal (hrefusal.widen i j k)]
    exact .refusal e
  · have hm' : 0 < (widen k modulus).value := by rwa [value_widen]
    -- the zeros stand in front of each power, so they may be put there one by one
    have hpower : encodedPower (widen k modulus) = widen k ∘ encodedPower modulus := by
      funext pair
      rw [encodedPower, value_widen, padTo_mod_value_widen hm]
      rfl
    rw [powers_of_wellShaped hshape hm, powers_of_wellShaped (hshape.widen i j) hm',
      numberPairs_widen, hpower, ← List.map_map]
    exact .result _

theorem productAll_widen (values : List Buffer) :
    Widened (fun _ => i) (widen k) (productAll values modulus)
      (productAll (values.map (widen i)) (widen k modulus)) := by
  rcases valuesRefusal_or_uniform values modulus with ⟨e, hrefusal⟩ | ⟨hne, huniform, hm⟩
  · rw [productAll_of_refusal hrefusal, productAll_of_refusal (hrefusal.widen i k)]
    exact .refusal e
  · have hm' : 0 < (widen k modulus).value := by rwa [value_widen]
    have hne' : values.map (widen i) ≠ [] := by simpa using hne
    rw [productAll_of_uniform hne huniform hm,
      productAll_of_uniform hne' (huniform.widen i) hm', map_value_widen, value_widen,
      padTo_mod_value_widen hm]
    exact .result _

theorem product_widen (extra : String → Nat) (a b : Buffer) :
    Widened extra (widen k) (product a b modulus)
      (product (widen i a) (widen j b) (widen k modulus)) := by
  rcases Nat.eq_zero_or_pos modulus.value with hzero | hm
  · have hzero' : (widen k modulus).value = 0 := by rwa [value_widen]
    rw [product_of_zero a b hzero, product_of_zero _ _ hzero']
    exact .refusal .zeroModulus
  · have hm' : 0 < (widen k modulus).value := by rwa [value_widen]
    rw [product_of_pos a b hm, product_of_pos _ _ hm', value_widen, value_widen, value_widen,
      padTo_mod_value_widen hm]
    exact .result _

/-- Zeros in front of the buffers of a request change its outcome only by
zeros: `k` of them in front of the modulus stand in front of every result, and
a refusal has the same variant. The bases and the exponents, or the two factors
of a product, may get different numbers of zeros. -/
theorem widened_requests :
    (∀ config bases exponents,
      Widened (extraOf i j) (widen k) (powerProductWith config bases exponents modulus)
        (powerProductWith config (bases.map (widen i)) (exponents.map (widen j))
          (widen k modulus))) ∧
    (∀ bases exponents,
      Widened (extraOf i j) (List.map (widen k)) (powers bases exponents modulus)
        (powers (bases.map (widen i)) (exponents.map (widen j)) (widen k modulus))) ∧
    (∀ values, Widened (fun _ => i) (widen k) (productAll values modulus)
      (productAll (values.map (widen i)) (widen k modulus))) ∧
    (∀ a b, Widened (fun _ => 0) (widen k) (product a b modulus)
      (product (widen i a) (widen j b) (widen k modulus))) ∧
    ∀ extra e, (Error.widen extra e).variant = e.variant :=
  ⟨powerProductWith_widen i j k modulus, powers_widen i j k modulus,
    productAll_widen i k modulus, product_widen i j k modulus fun _ => 0, Error.variant_widen⟩

end Operations

end Encoded

end PowerProduct
