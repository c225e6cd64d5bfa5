import Mathlib
import PowerProduct.Proofs.CeilingLogarithm
import PowerProduct.Proofs.WindowCost

/-!
# The suggested width

The search for the cheapest width ends one above the logarithm of the number of
bits. For every number of bits but one the cost has turned there, so the search
finds the least of the cheapest widths among all that are supported
(`isLeast_suggestion`). For exponents of one bit it tries the width 1 alone,
which is not the cheapest. `suggestedWidth_cheapest_iff` states both, with the
bounds that keep the comparisons within their words.

The suggestion is at most `width` exactly up to `lastBits width` bits
(`suggestion_le_iff`), and these bounds increase. So it grows with the number of
bits and leaves out no width (`suggestedWidth_monotone_gapless`).
-/

set_option autoImplicit false

namespace PowerProduct.Window

/-- The last width that is tried for exponents of `bits` bits. -/
def searchBound (bits : Nat) : Nat := min (Nat.clog 2 bits + 1) maxWidth

/-- The width that the search finds for exponents of `bits` bits. -/
def suggestion (bits : Nat) : Nat := bestUpTo bits (searchBound bits)

/-- The largest number of bits for which no width above `width` is suggested.
One bit does not lead to the width 2, although that is cheaper. -/
def lastBits (width : Nat) : Nat := max 1 (turningPoint width)

/-! ## The search reaches the turn -/

section Suggestions

variable {bits : Nat}

theorem one_le_searchBound (bits : Nat) : 1 ≤ searchBound bits :=
  le_min (Nat.le_add_left 1 _) (by decide)

theorem searchBound_le (bits : Nat) : searchBound bits ≤ maxWidth := min_le_right _ _

/-- Up to one bit the first width is the only one that is tried. -/
theorem suggestion_of_le_one (hbits : bits ≤ 1) : suggestion bits = 1 := by
  have hclog : Nat.clog 2 bits = 0 := Nat.clog_of_right_le_one hbits 2
  rw [suggestion, searchBound, hclog]
  exact bestUpTo_one bits

theorem suggestedWidth_eq_suggestion (bits : UInt64) :
    suggestedWidth bits = .ok (suggestion bits.toNat) := by
  rw [suggestedWidth]
  by_cases hfew : bits < 2
  · have hle : bits.toNat ≤ 1 := Nat.le_of_lt_succ (UInt64.lt_iff_toNat_lt.1 hfew)
    rw [if_pos hfew, suggestion_of_le_one hle]
    rfl
  · have hne : bits ≠ 0 := by
      rintro rfl
      exact hfew (by decide)
    rw [if_neg hfew, Word.ceilLog2_eq_clog hne]
    rfl

/-- One above the logarithm the cost has turned, except for exponents of one bit. -/
theorem le_turningPoint_clog (hbits : bits ≠ 1) : bits ≤ turningPoint (Nat.clog 2 bits + 1) := by
  rcases Nat.eq_zero_or_pos bits with rfl | hpos
  · exact Nat.zero_le _
  have hclog : 0 < Nat.clog 2 bits := Nat.clog_pos (by decide) (by omega)
  calc bits
      ≤ 2 ^ Nat.clog 2 bits := Nat.le_pow_clog (by decide) bits
    _ ≤ 2 ^ (Nat.clog 2 bits + 1) := Nat.pow_le_pow_right (by decide) (Nat.le_succ _)
    _ ≤ Nat.clog 2 bits * 2 ^ (Nat.clog 2 bits + 1) := Nat.le_mul_of_pos_left _ hclog

theorem isLeast_suggestion (hbits : bits ≠ 1) :
    IsLeast {width | Cheapest bits maxWidth width} (suggestion bits) := by
  have hfound := isLeast_bestUpTo bits (one_le_searchBound bits)
  rcases Nat.le_total (Nat.clog 2 bits + 1) maxWidth with hbelow | hbeyond
  · -- the search stops behind the turn
    apply isLeast_cheapest_mono (one_le_searchBound bits) (searchBound_le bits) _ hfound
    rw [searchBound, min_eq_left hbelow]
    exact le_turningPoint_clog hbits
  · -- the search tries every supported width
    rw [suggestion]
    rwa [searchBound, min_eq_right hbeyond] at hfound ⊢

theorem one_le_suggestion (bits : Nat) : 1 ≤ suggestion bits :=
  (isLeast_bestUpTo bits (one_le_searchBound bits)).1.pos

theorem suggestion_le_searchBound (bits : Nat) : suggestion bits ≤ searchBound bits :=
  (isLeast_bestUpTo bits (one_le_searchBound bits)).1.le

theorem isLeast_cheapest_one_bit : IsLeast {width | Cheapest 1 maxWidth width} 2 := by
  have hfound := isLeast_bestUpTo 1 (show 1 ≤ maxWidth by decide)
  have hbest : bestUpTo 1 maxWidth = 2 := by decide
  rwa [hbest] at hfound

/-- The suggestion is the least of the cheapest widths for every number of bits
but one. -/
theorem isLeast_suggestion_iff :
    IsLeast {width | Cheapest bits maxWidth width} (suggestion bits) ↔ bits ≠ 1 := by
  constructor
  · rintro hleast rfl
    have hsame := hleast.unique isLeast_cheapest_one_bit
    rw [suggestion_of_le_one (Nat.le_refl 1)] at hsame
    exact absurd hsame (by decide)
  · exact isLeast_suggestion

/-! ## The numbers that are compared -/

/-- The entries of a table of a supported width are counted by a word. -/
theorem toNat_powerOfTwo_width {width : Nat} (hwidth : width ≤ maxWidth) :
    (Word.powerOfTwo (UInt64.ofNat width)).toNat = tableSize width := by
  have hsmall : width < 64 := lt_of_le_of_lt hwidth (by decide)
  have hword : (UInt64.ofNat width).toNat = width :=
    UInt64.toNat_ofNat_of_lt' (hsmall.trans (by decide))
  rw [Word.toNat_powerOfTwo (by rw [hword]; exact hsmall), hword]
  rfl

/-- What is compared for supported widths fits in 128 bits. -/
theorem blockCost_mul_lt {a b : Nat} (hbits : bits < 2 ^ 64) (ha : a ≤ maxWidth)
    (hb : b ≤ maxWidth) : blockCost bits a * b < 2 ^ 128 := by
  have htable : tableSize a ≤ 2 ^ 16 := Nat.pow_le_pow_right (by decide) ha
  have hcost : blockCost bits a < 2 ^ 65 := by
    rw [blockCost]
    omega
  calc blockCost bits a * b
      ≤ 2 ^ 65 * 16 := Nat.mul_le_mul hcost.le hb
    _ < 2 ^ 128 := by decide

end Suggestions

/-- There is always a suggestion, and it is one of the widths that are tried. It
is the least of the supported widths with the lowest cost per pair exactly if
the exponents do not have one bit. For any two supported widths the table sizes
are words, the cross-multiplied costs are below `2 ^ 128`, and comparing them is
comparing the costs. -/
theorem suggestedWidth_cheapest_iff (bits : UInt64) :
    (∃ width, suggestedWidth bits = .ok width ∧ 1 ≤ width ∧ width ≤ searchBound bits.toNat ∧
      (IsLeast {w | Cheapest bits.toNat maxWidth w} width ↔ bits ≠ 1)) ∧
    ∀ a b, 1 ≤ a → a ≤ maxWidth → 1 ≤ b → b ≤ maxWidth →
      (Word.powerOfTwo (UInt64.ofNat a)).toNat = tableSize a ∧
      blockCost bits.toNat a * b < 2 ^ 128 ∧
      (cheaper bits.toNat a b = true ↔
        perPairCost bits.toNat a < perPairCost bits.toNat b) := by
  have hone : bits.toNat ≠ 1 ↔ bits ≠ 1 := by
    rw [ne_eq, ne_eq, ← UInt64.toNat_inj]
    exact Iff.rfl
  constructor
  · refine ⟨suggestion bits.toNat, suggestedWidth_eq_suggestion bits, one_le_suggestion _,
      suggestion_le_searchBound _, ?_⟩
    rw [isLeast_suggestion_iff, hone]
  · intro a b ha ha' hb hb'
    exact ⟨toNat_powerOfTwo_width ha', blockCost_mul_lt bits.toNat_lt ha' hb', cheaper_iff _ ha hb⟩

/-- For exponents of one bit the width 1 is suggested, at a cost of three
multiplications per pair, and the width 2 costs two and a half. -/
theorem suggestedWidth_one_bit :
    suggestedWidth 1 = .ok 1 ∧ IsLeast {width | Cheapest 1 maxWidth width} 2 ∧
      perPairCost 1 1 = 3 ∧ perPairCost 1 2 = 5 / 2 := by
  refine ⟨by decide, isLeast_cheapest_one_bit, ?_, ?_⟩
  · norm_num [perPairCost]
  · norm_num [perPairCost]

/-! ## Growing with the number of bits -/

section Growth

variable {bits : Nat}

theorem lastBits_lt_succ {width : Nat} (hwidth : 1 ≤ width) :
    lastBits width < lastBits (width + 1) := by
  have hnext := turningPoint_lt_succ hwidth
  have htwo : 2 ≤ turningPoint (width + 1) :=
    calc 2 ≤ 2 ^ (width + 1) := Nat.le_self_pow (Nat.succ_ne_zero width) 2
      _ ≤ width * 2 ^ (width + 1) := Nat.le_mul_of_pos_left _ hwidth
  rw [lastBits, lastBits]
  omega

/-- No width above `width` is suggested exactly up to `lastBits width` bits. -/
theorem suggestion_le_iff {width : Nat} (hwidth : 1 ≤ width) (hmax : width < maxWidth) :
    suggestion bits ≤ width ↔ bits ≤ lastBits width := by
  rw [lastBits, le_max_iff]
  by_cases hone : bits = 1
  · subst hone
    rw [suggestion_of_le_one (Nat.le_refl 1)]
    simp [hwidth]
  · rw [le_iff_le_turningPoint (isLeast_suggestion hone) hwidth hmax]
    -- without bits the cost has turned at every width
    constructor
    · exact Or.inr
    · rintro (hfew | hturned)
      · have hzero : bits = 0 := by omega
        rw [hzero]
        exact Nat.zero_le _
      · exact hturned

theorem suggestion_le_maxWidth (bits : Nat) : suggestion bits ≤ maxWidth :=
  (suggestion_le_searchBound bits).trans (searchBound_le bits)

/-- More bits do not lower the suggestion. -/
theorem suggestion_mono {a b : Nat} (hab : a ≤ b) : suggestion a ≤ suggestion b := by
  rcases Nat.lt_or_eq_of_le (suggestion_le_maxWidth b) with hmax | hmax
  · -- `a` is within the bound of the width suggested for `b`
    rw [suggestion_le_iff (one_le_suggestion b) hmax]
    apply hab.trans
    rw [← suggestion_le_iff (one_le_suggestion b) hmax]
  · rw [hmax]
    exact suggestion_le_maxWidth a

/-- One bit more raises the suggestion by at most one. -/
theorem suggestion_succ_le (bits : Nat) : suggestion (bits + 1) ≤ suggestion bits + 1 := by
  have hpos := one_le_suggestion bits
  rcases Nat.lt_or_ge (suggestion bits + 1) maxWidth with hmax | hmax
  · -- the bound of the next width is above that of the width suggested for `bits`
    rw [suggestion_le_iff (Nat.le_add_left 1 _) hmax]
    have hbits : bits ≤ lastBits (suggestion bits) := by
      rw [← suggestion_le_iff hpos (by omega)]
    exact Nat.succ_le_of_lt (hbits.trans_lt (lastBits_lt_succ hpos))
  · exact (suggestion_le_maxWidth _).trans hmax

end Growth

/-- The suggestion grows with the number of bits, over all words, and from one
number of bits to the next it grows by at most one. -/
theorem suggestedWidth_monotone_gapless :
    (∀ a b : UInt64, a ≤ b → ∃ v w, suggestedWidth a = .ok v ∧ suggestedWidth b = .ok w ∧ v ≤ w) ∧
    ∀ bits : UInt64, bits.toNat < 2 ^ 64 - 1 → ∃ v w, suggestedWidth bits = .ok v ∧
      suggestedWidth (bits + 1) = .ok w ∧ v ≤ w ∧ w ≤ v + 1 := by
  constructor
  · intro a b hab
    refine ⟨_, _, suggestedWidth_eq_suggestion a, suggestedWidth_eq_suggestion b, ?_⟩
    exact suggestion_mono (UInt64.le_iff_toNat_le.1 hab)
  · intro bits hbits
    have hnext : (bits + 1).toNat = bits.toNat + 1 := by
      rw [UInt64.toNat_add, UInt64.toNat_one]
      exact Nat.mod_eq_of_lt (by omega)
    refine ⟨_, _, suggestedWidth_eq_suggestion bits, suggestedWidth_eq_suggestion (bits + 1), ?_⟩
    rw [hnext]
    exact ⟨suggestion_mono (Nat.le_succ _), suggestion_succ_le _⟩

end PowerProduct.Window
