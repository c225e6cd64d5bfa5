import Mathlib
import PowerProduct.Proofs.TableFilling

/-!
# Runs of calls on a table

A table can be filled and narrowed in any order, and calls can fail.
`step_cases` says once what a call does. The invariant `Reached` follows a run:
the width has not grown, and the entries are those of a fresh table, or those
of a fresh table filled with the first bases of the last filling
(`reached_afterCalls`). The main statement `afterCalls_invariant` adds which
calls fail, and that a call that fails changes nothing.
-/

set_option autoImplicit false

namespace PowerProduct.SubsetTable

/-! ## What a call does -/

theorem step_of_ok {table next : SubsetTable} (call : Call)
    (h : call.action.run table = .ok () next) : step table call = (.ok (), next) := by
  rw [step, h]

theorem step_of_error {table next : SubsetTable} (call : Call) {failure : Failure}
    (h : call.action.run table = .error failure next) :
    step table call = (.error failure, next) := by
  rw [step, h]

/-- A block as wide as the table fills it, and another is refused. -/
theorem step_fill {table : SubsetTable} (h : table.WellFormed) (bases : List Nat) :
    step table (.fill bases) =
      if bases.length = table.width then (.ok (), forBases table.modulus bases)
      else (refuse (.lengthMismatch table.width bases.length), table) := by
  split
  case isTrue hlen => exact step_of_ok (.fill bases) (fill_eq_ok h hlen)
  case isFalse hlen => exact step_of_error (.fill bases) (fill_of_length_ne hlen)

/-- A positive width up to the table's narrows it, and another is refused. -/
theorem step_shrink (table : SubsetTable) (width : Nat) :
    step table (.shrink width) =
      if 1 ≤ width ∧ width ≤ table.width then
        (.ok (), { table with width, entries := table.entries.take (2 ^ width) })
      else (refuse (.windowOutOfRange width table.width), table) := by
  split
  case isTrue hfit => exact step_of_ok (.shrink width) (shrink_eq_ok hfit.1 hfit.2)
  case isFalse hfit =>
    exact step_of_error (.shrink width) (shrink_of_not_le (by omega))

/-- The outcomes of a call on a well-formed table: a refusal that changes
nothing, a filling, or a narrowing. -/
theorem step_cases {table : SubsetTable} (h : table.WellFormed) (call : Call) :
    (∃ e, step table call = (refuse e, table)) ∨
      (∃ bases, call = .fill bases ∧ bases.length = table.width ∧
        step table call = (.ok (), forBases table.modulus bases)) ∨
      (∃ width, call = .shrink width ∧ (1 ≤ width ∧ width ≤ table.width) ∧
        step table call =
          (.ok (), { table with width, entries := table.entries.take (2 ^ width) })) := by
  cases call with
  | fill bases =>
      rw [step_fill h]
      by_cases hlen : bases.length = table.width
      · exact Or.inr (Or.inl ⟨bases, rfl, hlen, if_pos hlen⟩)
      · exact Or.inl ⟨_, if_neg hlen⟩
  | shrink width =>
      rw [step_shrink]
      by_cases hfit : 1 ≤ width ∧ width ≤ table.width
      · exact Or.inr (Or.inr ⟨width, rfl, hfit, if_pos hfit⟩)
      · exact Or.inl ⟨_, if_neg hfit⟩

/-- No call widens the table. -/
theorem width_step_le {table : SubsetTable} (h : table.WellFormed) (call : Call) :
    (step table call).2.width ≤ table.width := by
  rcases step_cases h call with ⟨e, hstep⟩ | ⟨bases, _, hlen, hstep⟩ | ⟨width, _, hfit, hstep⟩
  · rw [hstep]
  · rw [hstep]
    exact Nat.le_of_eq hlen
  · rw [hstep]
    exact hfit.2

/-- A call that fails leaves the table as it is. -/
theorem step_eq_self {table : SubsetTable} (h : table.WellFormed) {call : Call}
    (hfail : (step table call).1 ≠ .ok ()) : (step table call).2 = table := by
  rcases step_cases h call with ⟨e, hstep⟩ | ⟨bases, _, _, hstep⟩ | ⟨width, _, _, hstep⟩
  · rw [hstep]
  · exact absurd (congrArg Prod.fst hstep) hfail
  · exact absurd (congrArg Prod.fst hstep) hfail

/-! ## The last filling -/

/-- The bases that a call with this outcome has filled a table with. -/
def Call.filled : Call → Outcome Unit → Option (List Nat)
  | .fill bases, .ok () => some bases
  | _, _ => none

/-- The bases of the last call of a run that has filled the table. -/
def lastFilled : SubsetTable → List Call → Option (List Nat)
  | _, [] => none
  | table, call :: rest =>
      (lastFilled (step table call).2 rest).or (call.filled (step table call).1)

theorem afterCalls_concat (table : SubsetTable) (calls : List Call) (call : Call) :
    afterCalls table (calls ++ [call]) = (step (afterCalls table calls) call).2 := by
  simp [afterCalls, List.foldl_append]

theorem lastFilled_concat (table : SubsetTable) (calls : List Call) (call : Call) :
    lastFilled table (calls ++ [call]) =
      (call.filled (step (afterCalls table calls) call).1).or (lastFilled table calls) := by
  induction calls generalizing table with
  | nil => simp [lastFilled, afterCalls]
  | cons first rest ih =>
      rw [List.cons_append, lastFilled, ih, lastFilled, Option.or_assoc]
      rfl

/-! ## The invariant -/

/-- The state of a table of width `width` at first, when `filled` are the bases
of the last filling. -/
structure Reached (modulus width : Nat) (filled : Option (List Nat)) (table : SubsetTable) :
    Prop where
  wellFormed : table.WellFormed
  modulus_eq : table.modulus = modulus
  width_le : table.width ≤ width
  blank_entries : filled = none → table.entries = Array.replicate (2 ^ table.width) 0
  filled_entries : ∀ bases, filled = some bases →
    table.width ≤ bases.length ∧ table.entries = products modulus (bases.take table.width)

/-- A call carries the invariant on. -/
theorem Reached.step {modulus width : Nat} {filled : Option (List Nat)} {table : SubsetTable}
    (h : Reached modulus width filled table) (call : Call) :
    Reached modulus width ((call.filled (step table call).1).or filled) (step table call).2 := by
  rcases step_cases h.wellFormed call with ⟨e, hstep⟩ | ⟨bases, rfl, hlen, hstep⟩ |
    ⟨narrow, rfl, hfit, hstep⟩
  · -- a refusal fills nothing and changes nothing
    have hnone : call.filled (refuse e) = none := by cases call <;> rfl
    rw [hstep, hnone]
    exact h
  · -- a filling: the last filling is this one, and the entries are all its products
    rw [hstep, h.modulus_eq]
    have hpos : 1 ≤ bases.length := hlen ▸ h.wellFormed.width_pos
    have hle : bases.length ≤ Window.maxWidth := hlen ▸ h.wellFormed.width_le
    have hm : 0 < modulus := h.modulus_eq ▸ h.wellFormed.modulus_pos
    have hwidth : bases.length ≤ width := hlen ▸ h.width_le
    refine ⟨wellFormed_forBases hpos hle hm, rfl, hwidth, ?_, ?_⟩
    · intro hnone
      cases hnone
    · intro other hsome
      obtain rfl : bases = other := Option.some.inj hsome
      refine ⟨Nat.le_refl _, ?_⟩
      show products modulus bases = products modulus (bases.take bases.length)
      rw [List.take_length]
  · -- a narrowing: the last filling stays, and of its products those of the first bases
    rw [hstep]
    have hpow : 2 ^ narrow ≤ 2 ^ table.width := Nat.pow_le_pow_right (by decide) hfit.2
    refine ⟨h.wellFormed.narrowed hfit.1 hfit.2, h.modulus_eq, Nat.le_trans hfit.2 h.width_le,
      ?_, ?_⟩
    · intro hnone
      show table.entries.take (2 ^ narrow) = Array.replicate (2 ^ narrow) 0
      rw [h.blank_entries hnone]
      simp [hpow]
    · intro bases hsome
      obtain ⟨hlen, hentries⟩ := h.filled_entries bases hsome
      refine ⟨Nat.le_trans hfit.2 hlen, ?_⟩
      show table.entries.take (2 ^ narrow) = products modulus (bases.take narrow)
      rw [hentries, take_products (by rw [List.length_take_of_le hlen]; exact hfit.2),
        List.take_take, Nat.min_eq_left hfit.2]

theorem reached_blank {modulus width : Nat} (hpos : 1 ≤ width) (hle : width ≤ Window.maxWidth)
    (hm : 0 < modulus) :
    Reached modulus width none ⟨width, modulus, Array.replicate (2 ^ width) 0⟩ where
  wellFormed := wellFormed_blank hpos hle hm
  modulus_eq := rfl
  width_le := Nat.le_refl width
  blank_entries _ := rfl
  filled_entries _ hsome := by cases hsome

/-- Every run keeps the invariant. -/
theorem reached_afterCalls {modulus width : Nat} {start : SubsetTable}
    (h : Reached modulus width none start) (calls : List Call) :
    Reached modulus width (lastFilled start calls) (afterCalls start calls) := by
  -- the run is followed from its start, so the induction is on its last call
  induction calls using List.reverseRecOn with
  | nil => exact h
  | append_singleton calls call ih =>
      rw [afterCalls_concat, lastFilled_concat]
      exact ih.step call

/-- A filled table is the one that is made afresh for the first bases of the
last filling. -/
theorem Reached.eq_refilled {modulus width : Nat} {bases : List Nat} {table : SubsetTable}
    (h : Reached modulus width (some bases) table) :
    (do (← blank table.width modulus).after (fill (bases.take table.width))) = .ok table := by
  obtain ⟨hlen, hentries⟩ := h.filled_entries bases rfl
  have hm : 0 < modulus := h.modulus_eq ▸ h.wellFormed.modulus_pos
  have htake : (bases.take table.width).length = table.width := List.length_take_of_le hlen
  have hfresh := wellFormed_blank h.wellFormed.width_pos h.wellFormed.width_le hm
  rw [blank_eq_ok h.wellFormed.width_pos h.wellFormed.width_le hm]
  refine (after_fill hfresh htake).trans (congrArg Except.ok ?_)
  rw [forBases, htake, ← hentries, ← h.modulus_eq]

/-- After any calls on a fresh table the table holds one entry for each subset
and is not wider than at first. Filling fails exactly for a block of another
width, and narrowing exactly for a width of zero or above the table's; a call
that fails leaves the table as it is. The entries are zeros until a filling
succeeds, and from then on those of a fresh table filled with the first bases
of the last filling. -/
theorem afterCalls_invariant {modulus width : Nat} (hm : 0 < modulus) (hpos : 1 ≤ width)
    (hle : width ≤ Window.maxWidth) :
    ∃ start, blank width modulus = .ok start ∧ start.width = width ∧
      ∀ calls, let table := afterCalls start calls
        table.modulus = modulus ∧ table.entries.size = 2 ^ table.width ∧
        1 ≤ table.width ∧ table.width ≤ width ∧
        (∀ bases, (step table (.fill bases)).1 =
          if bases.length = table.width then .ok ()
          else refuse (.lengthMismatch table.width bases.length)) ∧
        (∀ narrow, (step table (.shrink narrow)).1 =
          if 1 ≤ narrow ∧ narrow ≤ table.width then .ok ()
          else refuse (.windowOutOfRange narrow table.width)) ∧
        (∀ call, (step table call).2.width ≤ table.width) ∧
        (∀ call, (step table call).1 ≠ .ok () → (step table call).2 = table) ∧
        match lastFilled start calls with
        | none => table.entries = Array.replicate (2 ^ table.width) 0
        | some bases =>
            (do (← blank table.width modulus).after (fill (bases.take table.width))) =
              .ok table := by
  refine ⟨_, blank_eq_ok hpos hle hm, rfl, ?_⟩
  intro calls
  have h := reached_afterCalls (reached_blank hpos hle hm) calls
  generalize hstart : (⟨width, modulus, Array.replicate (2 ^ width) 0⟩ : SubsetTable) = start at h ⊢
  generalize afterCalls start calls = table at h ⊢
  refine ⟨h.modulus_eq, h.wellFormed.size_eq, h.wellFormed.width_pos, h.width_le, ?_, ?_,
    width_step_le h.wellFormed, fun call => step_eq_self h.wellFormed, ?_⟩
  · intro bases
    rw [step_fill h.wellFormed]
    split <;> rfl
  · intro narrow
    rw [step_shrink]
    split <;> rfl
  · cases hfilled : lastFilled start calls with
    | none => exact h.blank_entries hfilled
    | some bases =>
        rw [hfilled] at h
        exact h.eq_refilled

/-- A filling, a block of another width, a narrowing, and a width of zero: the
table is the one for the first two of the three bases. -/
theorem afterCalls_filled_narrowed :
    (0 < 13 ∧ 1 ≤ 3 ∧ 3 ≤ Window.maxWidth) ∧
      ∃ start, blank 3 13 = .ok start ∧
        (do (← blank 2 13).after (fill [2, 3])) =
          .ok (afterCalls start [.fill [2, 3, 4], .fill [5], .shrink 2, .shrink 0]) := by
  obtain ⟨start, hstart, -, hrun⟩ :=
    afterCalls_invariant (show 0 < 13 by decide) (show 1 ≤ 3 by decide) (by decide)
  refine ⟨by decide, start, hstart, ?_⟩
  obtain rfl : start = ⟨3, 13, Array.replicate (2 ^ 3) 0⟩ := Except.ok.inj hstart.symm
  exact (hrun [.fill [2, 3, 4], .fill [5], .shrink 2, .shrink 0]).2.2.2.2.2.2.2.2

end PowerProduct.SubsetTable
