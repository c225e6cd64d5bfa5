import Mathlib
import PowerProduct.Window

/-!
# The cost of a window width

A block of `w` pairs costs `2 ^ w` multiplications for its table and one for
each exponent bit, so a pair costs `(2 ^ w + bits) / w` of them. From one width
to the next the cost falls exactly as long as the number of bits is above
`turningPoint w = (w - 1) * 2 ^ w`, and the turning points increase: the cost
falls up to some width and does not fall again (`perPairCost_succ_lt_iff`,
`perPairCost_le_of_turned`).

The search compares cross-multiplied costs and finds the least of the cheapest
widths that it tries (`isLeast_bestUpTo`). If the last of them is behind the
turn, the widths that it leaves out are no better (`isLeast_cheapest_mono`).
-/

set_option autoImplicit false

namespace PowerProduct.Window

/-! ## The cost of a pair -/

/-- The multiplications for a pair in a block of `width` pairs, as an exact
ratio. -/
def perPairCost (bits width : Nat) : ℚ := (2 ^ width + bits) / width

/-- The largest number of exponent bits for which the width after `width` is no
cheaper. -/
def turningPoint (width : Nat) : Nat := (width - 1) * 2 ^ width

/-- The width is one of those from 1 to `upper`, and none of them is cheaper. -/
structure Cheapest (bits upper width : Nat) : Prop where
  pos : 1 ≤ width
  le : width ≤ upper
  cost_le : ∀ other, 1 ≤ other → other ≤ upper →
    perPairCost bits width ≤ perPairCost bits other

section Costs

variable {bits : Nat}

/-- The comparison by cross-multiplication compares the costs. -/
theorem cheaper_iff (bits : Nat) {a b : Nat} (ha : 1 ≤ a) (hb : 1 ≤ b) :
    cheaper bits a b = true ↔ perPairCost bits a < perPairCost bits b := by
  have ha' : (0 : ℚ) < a := by exact_mod_cast ha
  have hb' : (0 : ℚ) < b := by exact_mod_cast hb
  rw [cheaper, decide_eq_true_iff, perPairCost, perPairCost, div_lt_div_iff₀ ha' hb']
  -- the same inequality between natural numbers
  simp only [blockCost, tableSize, Nat.pow_eq]
  exact_mod_cast Iff.rfl

/-- The next width is cheaper exactly below the turning point. -/
theorem perPairCost_succ_lt_iff {width : Nat} (hwidth : 1 ≤ width) :
    perPairCost bits (width + 1) < perPairCost bits width ↔ turningPoint width < bits := by
  obtain ⟨k, rfl⟩ := Nat.exists_eq_add_of_le' hwidth
  rw [← cheaper_iff bits (Nat.le_add_left 1 _) hwidth, cheaper, decide_eq_true_iff]
  simp only [blockCost, tableSize, turningPoint, Nat.pow_eq, Nat.add_sub_cancel]
  -- both sides hold `(k + 1) * bits`, and what remains is the turning point
  have hleft : (2 ^ (k + 1 + 1) + bits) * (k + 1) =
      (2 ^ (k + 1) * (k + 2) + (k + 1) * bits) + k * 2 ^ (k + 1) := by ring
  have hright : (2 ^ (k + 1) + bits) * (k + 1 + 1) =
      (2 ^ (k + 1) * (k + 2) + (k + 1) * bits) + bits := by ring
  rw [hleft, hright, Nat.add_lt_add_iff_left]

/-- Turning points increase. -/
theorem turningPoint_lt_succ {width : Nat} (hwidth : 1 ≤ width) :
    turningPoint width < turningPoint (width + 1) := by
  have hpow : 0 < 2 ^ width := Nat.two_pow_pos width
  calc turningPoint width
      = (width - 1) * 2 ^ width := rfl
    _ ≤ width * 2 ^ width := Nat.mul_le_mul_right _ (Nat.sub_le width 1)
    _ < width * 2 ^ width + width * 2 ^ width :=
        Nat.lt_add_of_pos_right (Nat.mul_pos hwidth hpow)
    _ = turningPoint (width + 1) := by
        rw [turningPoint, Nat.add_sub_cancel, pow_succ]
        ring

theorem turningPoint_le {a b : Nat} (ha : 1 ≤ a) (hab : a ≤ b) :
    turningPoint a ≤ turningPoint b := by
  induction b, hab using Nat.le_induction with
  | base => exact Nat.le_refl _
  | succ b hab ih => exact ih.trans (turningPoint_lt_succ (ha.trans hab)).le

/-- Behind the turn the cost does not fall again. -/
theorem perPairCost_le_of_turned {a b : Nat} (ha : 1 ≤ a) (hab : a ≤ b)
    (hturned : bits ≤ turningPoint a) : perPairCost bits a ≤ perPairCost bits b := by
  induction b, hab using Nat.le_induction with
  | base => exact le_refl _
  | succ b hab ih =>
      have hb : 1 ≤ b := ha.trans hab
      have hstep : ¬ perPairCost bits (b + 1) < perPairCost bits b := by
        rw [perPairCost_succ_lt_iff hb]
        exact Nat.not_lt.2 (hturned.trans (turningPoint_le ha hab))
      exact ih.trans (le_of_not_gt hstep)

/-! ## The search -/

/-- A cheapest width is one also among fewer widths. -/
theorem Cheapest.of_le {upper limit width : Nat} (h : Cheapest bits limit width)
    (hwidth : width ≤ upper) (hlimit : upper ≤ limit) : Cheapest bits upper width := by
  refine ⟨h.pos, hwidth, ?_⟩
  intro other hpos hother
  exact h.cost_le other hpos (hother.trans hlimit)

theorem bestUpTo_one (bits : Nat) : bestUpTo bits 1 = 1 := by
  simp [bestUpTo, better]

theorem bestUpTo_succ (bits upper : Nat) :
    bestUpTo bits (upper + 1) = better bits (bestUpTo bits upper) (upper + 1) := by
  rw [bestUpTo, List.range'_1_concat, List.foldl_append, Nat.add_comm 1 upper]
  rfl

/-- One step of the search takes the next width into account. -/
theorem isLeast_better {upper best : Nat}
    (h : IsLeast {width | Cheapest bits upper width} best) :
    IsLeast {width | Cheapest bits (upper + 1) width} (better bits best (upper + 1)) := by
  obtain ⟨hbest, hleast⟩ := h
  have hnew := cheaper_iff bits (Nat.le_add_left 1 upper) hbest.pos
  rw [better]
  split
  case isTrue hcheaper =>
    -- the new width is cheaper than the best so far, and so than all before it
    have hlt : ∀ other, 1 ≤ other → other ≤ upper →
        perPairCost bits (upper + 1) < perPairCost bits other := by
      intro other hpos hother
      exact (hnew.1 hcheaper).trans_le (hbest.cost_le other hpos hother)
    constructor
    · refine ⟨Nat.le_add_left 1 upper, Nat.le_refl _, ?_⟩
      intro other hpos hother
      rcases Nat.lt_or_eq_of_le hother with hbefore | rfl
      · exact (hlt other hpos (Nat.le_of_lt_succ hbefore)).le
      · exact le_refl _
    · intro width hwidth
      by_contra hbefore
      have hcost := hlt width hwidth.pos (Nat.le_of_lt_succ (Nat.lt_of_not_le hbefore))
      exact absurd hcost
        (not_lt.2 (hwidth.cost_le (upper + 1) (Nat.le_add_left 1 upper) (Nat.le_refl _)))
  case isFalse hcheaper =>
    -- the best so far stays, also if the new width costs the same
    have hle : perPairCost bits best ≤ perPairCost bits (upper + 1) := by
      rw [← not_lt, ← hnew]
      exact hcheaper
    constructor
    · refine ⟨hbest.pos, hbest.le.trans (Nat.le_succ upper), ?_⟩
      intro other hpos hother
      rcases Nat.lt_or_eq_of_le hother with hbefore | rfl
      · exact hbest.cost_le other hpos (Nat.le_of_lt_succ hbefore)
      · exact hle
    · intro width hwidth
      rcases Nat.lt_or_eq_of_le hwidth.le with hbefore | rfl
      · exact hleast (hwidth.of_le (Nat.le_of_lt_succ hbefore) (Nat.le_succ upper))
      · exact hbest.le.trans (Nat.le_succ upper)

/-- The search finds the least of the cheapest widths from 1 to `upper`. -/
theorem isLeast_bestUpTo (bits : Nat) {upper : Nat} (hupper : 1 ≤ upper) :
    IsLeast {width | Cheapest bits upper width} (bestUpTo bits upper) := by
  induction upper, hupper using Nat.le_induction with
  | base =>
      rw [bestUpTo_one]
      constructor
      · refine ⟨Nat.le_refl 1, Nat.le_refl 1, ?_⟩
        intro other hpos hle
        rw [Nat.le_antisymm hle hpos]
      · intro width hwidth
        exact hwidth.pos
  | succ upper _ ih =>
      rw [bestUpTo_succ]
      exact isLeast_better ih

/-- A search whose last width is behind the turn need not go on. -/
theorem isLeast_cheapest_mono {upper limit width : Nat} (hupper : 1 ≤ upper)
    (hlimit : upper ≤ limit) (hturned : bits ≤ turningPoint upper)
    (h : IsLeast {width | Cheapest bits upper width} width) :
    IsLeast {width | Cheapest bits limit width} width := by
  obtain ⟨hwidth, hleast⟩ := h
  constructor
  · refine ⟨hwidth.pos, hwidth.le.trans hlimit, ?_⟩
    intro other hpos _
    rcases Nat.le_total other upper with htried | hbeyond
    · exact hwidth.cost_le other hpos htried
    · -- a width beyond the search costs no less than its last one
      exact (hwidth.cost_le upper hupper (Nat.le_refl _)).trans
        (perPairCost_le_of_turned hupper hbeyond hturned)
  · intro other hother
    rcases Nat.le_total other upper with htried | hbeyond
    · exact hleast (hother.of_le htried hlimit)
    · exact hwidth.le.trans hbeyond

/-- The least of the cheapest widths is at most `width` exactly if the cost has
turned there. -/
theorem le_iff_le_turningPoint {limit best width : Nat}
    (h : IsLeast {width | Cheapest bits limit width} best) (hwidth : 1 ≤ width)
    (hlimit : width < limit) : best ≤ width ↔ bits ≤ turningPoint width := by
  obtain ⟨hbest, hleast⟩ := h
  constructor
  · intro hle
    by_contra hfalls
    -- otherwise the width after the best one would be cheaper
    have hlt : perPairCost bits (best + 1) < perPairCost bits best := by
      rw [perPairCost_succ_lt_iff hbest.pos]
      exact (turningPoint_le hbest.pos hle).trans_lt (Nat.lt_of_not_le hfalls)
    exact absurd hlt (not_lt.2 (hbest.cost_le _ (Nat.le_add_left 1 best) (by omega)))
  · intro hturned
    by_contra hlt
    -- otherwise `width` would be a cheapest width below the best one
    have hcost : perPairCost bits width ≤ perPairCost bits best :=
      perPairCost_le_of_turned hwidth (Nat.le_of_not_le hlt) hturned
    apply hlt
    apply hleast
    refine ⟨hwidth, hlimit.le, ?_⟩
    intro other hpos hle
    exact hcost.trans (hbest.cost_le other hpos hle)

end Costs

end PowerProduct.Window
