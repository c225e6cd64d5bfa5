import Mathlib
import PowerProduct.Proofs.SubsetProduct

/-!
# Filling a table

Filling stores the product of the empty subset, then the reduced bases, then
the products of the larger subsets in the order of their masks. The invariant
`TabulatedOn` lists the masks whose entries are right; each store adds its mask
(`store_tabulated`). When a block as wide as the table has been filled, every
entry is right whatever the table held before (`fill_eq_ok`,
`entry_after_fill`), and narrowing a filled table leaves the products of the
first bases (`take_products`).
-/

set_option autoImplicit false

namespace PowerProduct

section Steps

variable {σ α β : Type}

/-- A step that succeeds passes its result and its state on. -/
theorem run_bind_of_ok {x : EStateM Failure σ α} {a : α} {s t : σ} (h : x.run s = .ok a t)
    (next : α → EStateM Failure σ β) : (x >>= next).run s = (next a).run t := by
  rw [EStateM.run_bind, h]

theorem run_lift_ok (a : α) (s : σ) :
    (liftM (Except.ok a : Outcome α) : EStateM Failure σ α).run s = .ok a s := rfl

theorem run_lift_refuse (e : Error) (s : σ) :
    (liftM (refuse e : Outcome α) : EStateM Failure σ α).run s = .error (.error e) s := rfl

/-- A loop over consecutive numbers succeeds if each turn succeeds and carries
the invariant on. -/
theorem forM_range'_of_invariant {turn : Nat → EStateM Failure σ PUnit} (Inv : Nat → σ → Prop)
    {start count : Nat}
    (hturn : ∀ i, start ≤ i → i < start + count → ∀ s, Inv i s →
      ∃ t, (turn i).run s = .ok ⟨⟩ t ∧ Inv (i + 1) t)
    {s : σ} (hs : Inv start s) :
    ∃ t, ((List.range' start count).forM turn).run s = .ok ⟨⟩ t ∧ Inv (start + count) t := by
  induction count generalizing start s with
  | zero => exact ⟨s, rfl, hs⟩
  | succ count ih =>
      obtain ⟨t, ht, hInv⟩ := hturn start (Nat.le_refl _) (by omega) s hs
      obtain ⟨u, hu, hlast⟩ := ih (fun i hi hlt => hturn i (by omega) (by omega)) hInv
      refine ⟨u, ?_, ?_⟩
      · rw [List.range'_succ, List.forM_eq_forM, List.forM_cons, run_bind_of_ok ht]
        exact hu
      · have hend : start + (count + 1) = start + 1 + count := by omega
        rw [hend]
        exact hlast

end Steps

namespace Window

theorem tableSize_eq (width : Nat) : tableSize width = 2 ^ width := rfl

end Window

namespace SubsetTable

/-- The products of all subsets of `bases`, reduced, by mask. -/
def products (modulus : Nat) (bases : List Nat) : Array Nat :=
  (Array.range (Window.tableSize bases.length)).map fun mask => subsetProduct bases mask % modulus

/-- The table of a block of bases. -/
def forBases (modulus : Nat) (bases : List Nat) : SubsetTable :=
  ⟨bases.length, modulus, products modulus bases⟩

/-- A table of a supported width that holds one entry for each subset. -/
structure WellFormed (table : SubsetTable) : Prop where
  width_pos : 1 ≤ table.width
  width_le : table.width ≤ Window.maxWidth
  modulus_pos : 0 < table.modulus
  size_eq : table.entries.size = 2 ^ table.width

@[simp] theorem size_products (modulus : Nat) (bases : List Nat) :
    (products modulus bases).size = 2 ^ bases.length := by
  simp [products, Window.tableSize_eq]

theorem getElem?_products {modulus mask : Nat} {bases : List Nat}
    (hmask : mask < 2 ^ bases.length) :
    (products modulus bases)[mask]? = some (subsetProduct bases mask % modulus) := by
  have hsize : mask < Window.tableSize bases.length := hmask
  simp [products, hsize]

theorem entry_forBases {modulus mask : Nat} {bases : List Nat}
    (hmask : mask < 2 ^ bases.length) :
    (forBases modulus bases).entry mask = .ok (subsetProduct bases mask % modulus) := by
  simp only [entry, forBases, getElem?_products hmask]

theorem wellFormed_forBases {modulus : Nat} {bases : List Nat} (hpos : 1 ≤ bases.length)
    (hle : bases.length ≤ Window.maxWidth) (hm : 0 < modulus) :
    (forBases modulus bases).WellFormed where
  width_pos := hpos
  width_le := hle
  modulus_pos := hm
  size_eq := size_products modulus bases

/-- The entries at the masks in `done` are the products of their subsets. -/
structure TabulatedOn (modulus : Nat) (bases : List Nat) (done : Nat → Prop)
    (entries : Array Nat) : Prop where
  size_eq : entries.size = 2 ^ bases.length
  entry_eq : ∀ mask < 2 ^ bases.length, done mask →
    entries[mask]? = some (subsetProduct bases mask % modulus)

section Filling

variable {modulus : Nat} {bases : List Nat} {done : Nat → Prop} {entries : Array Nat}

theorem TabulatedOn.mono {done' : Nat → Prop} (h : TabulatedOn modulus bases done entries)
    (hsub : ∀ mask < 2 ^ bases.length, done' mask → done mask) :
    TabulatedOn modulus bases done' entries :=
  ⟨h.size_eq, fun mask hmask hdone => h.entry_eq mask hmask (hsub mask hmask hdone)⟩

theorem TabulatedOn.eq_products (h : TabulatedOn modulus bases (fun _ => True) entries) :
    entries = products modulus bases := by
  apply Array.ext_getElem?
  intro mask
  by_cases hmask : mask < 2 ^ bases.length
  · rw [h.entry_eq mask hmask trivial, getElem?_products hmask]
  · -- beyond the last mask neither array has an entry
    have hentries : entries.size ≤ mask := by
      rw [h.size_eq]
      exact Nat.not_lt.1 hmask
    have hproducts : (products modulus bases).size ≤ mask := by
      rw [size_products]
      exact Nat.not_lt.1 hmask
    rw [Array.getElem?_eq_none hentries, Array.getElem?_eq_none hproducts]

/-- A store of the right product adds its mask to the finished ones. -/
theorem store_tabulated (h : TabulatedOn modulus bases done entries) (index : Nat)
    {value : Nat} (hindex : index < 2 ^ bases.length)
    (hvalue : value = subsetProduct bases index % modulus) :
    ∃ entries', (store index value).run entries = .ok () entries' ∧
      TabulatedOn modulus bases (fun mask => mask = index ∨ done mask) entries' := by
  have hlt : index < entries.size := by
    rw [h.size_eq]
    exact hindex
  refine ⟨entries.set index value hlt, dif_pos hlt, by simpa using h.size_eq, ?_⟩
  intro mask hmask hdone
  by_cases heq : mask = index
  · subst heq
    rw [Array.getElem?_set_self, hvalue]
  · rw [Array.getElem?_set_ne _ (Ne.symm heq)]
    exact h.entry_eq mask hmask (hdone.resolve_left heq)

theorem fetch_tabulated (h : TabulatedOn modulus bases done entries) (index : Nat)
    (hindex : index < 2 ^ bases.length) (hdone : done index) :
    (fetch index).run entries = .ok (subsetProduct bases index % modulus) entries := by
  simp only [EStateM.run, fetch, h.entry_eq index hindex hdone]

/-- The masks of at most one base, up to the base at `position`. -/
def SingleBelow (position mask : Nat) : Prop := mask = 0 ∨ ∃ i < position, mask = 2 ^ i

theorem fillSingles_tabulated (hm : 0 < modulus) {position : Nat} {rest : List Nat}
    (hrest : bases.drop position = rest)
    (h : TabulatedOn modulus bases (SingleBelow position) entries) :
    ∃ entries', (fillSingles modulus position rest).run entries = .ok () entries' ∧
      TabulatedOn modulus bases (SingleBelow bases.length) entries' := by
  -- by induction on the bases that are left to store
  induction rest generalizing position entries with
  | nil =>
      have hend : bases.length ≤ position := List.drop_eq_nil_iff.1 hrest
      refine ⟨entries, rfl, h.mono ?_⟩
      rintro mask - (rfl | ⟨i, hi, rfl⟩)
      · exact Or.inl rfl
      · exact Or.inr ⟨i, by omega, rfl⟩
  | cons base rest ih =>
      have hlt : position < bases.length := by
        by_contra hle
        rw [List.drop_eq_nil_of_le (Nat.not_lt.1 hle)] at hrest
        cases hrest
      rw [List.drop_eq_getElem_cons hlt, List.cons.injEq] at hrest
      obtain ⟨rfl, hdrop⟩ := hrest
      have hindex : 1 <<< position < 2 ^ bases.length := by
        rw [Nat.one_shiftLeft]
        exact Nat.pow_lt_pow_right (by decide) hlt
      have hvalue : bases[position] % modulus =
          subsetProduct bases (1 <<< position) % modulus := by
        rw [Nat.one_shiftLeft, subsetProduct_two_pow hlt]
      obtain ⟨stored, hstore, htab⟩ := store_tabulated h _ hindex hvalue
      have hnext : TabulatedOn modulus bases (SingleBelow (position + 1)) stored := by
        apply htab.mono
        rintro mask - (rfl | ⟨i, hi, rfl⟩)
        · exact Or.inr (Or.inl rfl)
        · rcases Nat.lt_succ_iff_lt_or_eq.1 hi with hbelow | rfl
          · exact Or.inr (Or.inr ⟨i, hbelow, rfl⟩)
          · exact Or.inl (Nat.one_shiftLeft i).symm
      obtain ⟨entries', hrun, hfinal⟩ := ih hdrop hnext
      refine ⟨entries', ?_, hfinal⟩
      rw [fillSingles, Modular.reduce_of_pos hm, run_bind_of_ok (run_lift_ok _ _),
        run_bind_of_ok hstore]
      exact hrun

/-- The masks that are finished before the one at `upTo`: the smaller ones and
those of one base. -/
def FinishedBelow (upTo mask : Nat) : Prop := mask < upTo ∨ ∃ i, mask = 2 ^ i

/-- The entry of a mask with several bits comes from two finished entries. -/
theorem fillProduct_tabulated (hm : 0 < modulus) (hwidth : bases.length ≤ Window.maxWidth)
    {mask : Nat} (hpos : mask ≠ 0) (hmask : mask < 2 ^ bases.length)
    (h : TabulatedOn modulus bases (FinishedBelow mask) entries) :
    ∃ entries', (fillProduct modulus mask).run entries = .ok () entries' ∧
      TabulatedOn modulus bases (FinishedBelow (mask + 1)) entries' := by
  -- a mask of a supported width is a word, so its lowest bit is one of its bits
  have hword : mask < 2 ^ 64 := by
    have hmax : bases.length ≤ 64 := Nat.le_trans hwidth (by decide)
    exact Nat.lt_of_lt_of_le hmask (Nat.pow_le_pow_right (by decide) hmax)
  obtain ⟨i, hlow, hbit, -⟩ := lowestBit_eq_two_pow hpos hword
  have hi : i < bases.length := lt_of_testBit_of_lt_two_pow hmask hbit
  by_cases hsingle : lowestBit mask = mask
  · -- a mask of one base is finished already
    refine ⟨entries, ?_, h.mono ?_⟩
    · rw [fillProduct, if_neg (not_not.2 hsingle)]
      rfl
    · rintro k - (hlt | hpow)
      · rcases Nat.lt_succ_iff_lt_or_eq.1 hlt with hbelow | rfl
        · exact Or.inl hbelow
        · exact Or.inr ⟨i, by rw [← hlow, hsingle]⟩
      · exact Or.inr hpow
  · -- the mask without its lowest bit is smaller, and the bit itself is one base
    have hrest : mask ^^^ 2 ^ i < mask := xor_two_pow_lt hbit
    have hfetchRest := fetch_tabulated h _ (Nat.lt_trans hrest hmask) (Or.inl hrest)
    have hfetchBase := fetch_tabulated h (2 ^ i)
      (Nat.pow_lt_pow_right (by decide) hi) (Or.inr ⟨i, rfl⟩)
    have hvalue : subsetProduct bases (mask ^^^ 2 ^ i) % modulus *
          (subsetProduct bases (2 ^ i) % modulus) % modulus =
        subsetProduct bases mask % modulus := by
      rw [← Nat.mul_mod, subsetProduct_clear hi hbit, subsetProduct_two_pow hi]
    obtain ⟨entries', hstore, htab⟩ := store_tabulated h _ hmask hvalue
    refine ⟨entries', ?_, htab.mono ?_⟩
    · rw [fillProduct, if_pos hsingle, hlow, run_bind_of_ok hfetchRest,
        run_bind_of_ok hfetchBase, Modular.reduce_of_pos hm, run_bind_of_ok (run_lift_ok _ _)]
      exact hstore
    · rintro k - (hlt | hpow)
      · rcases Nat.lt_succ_iff_lt_or_eq.1 hlt with hbelow | rfl
        · exact Or.inr (Or.inl hbelow)
        · exact Or.inl rfl
      · exact Or.inr (Or.inr hpow)

/-- Filling the entries puts the products of the block in the place of whatever
they were. -/
theorem fillEntries_eq_ok (hm : 0 < modulus) (hwidth : bases.length ≤ Window.maxWidth)
    (hsize : entries.size = 2 ^ bases.length) :
    (fillEntries modulus bases).run entries = .ok () (products modulus bases) := by
  -- at first no entry is known to be right
  have hnone : TabulatedOn modulus bases (fun _ => False) entries :=
    ⟨hsize, fun _ _ hfalse => hfalse.elim⟩
  have hvalue : 1 % modulus = subsetProduct bases 0 % modulus := by rw [subsetProduct_zero]
  obtain ⟨e₁, hempty, htab₁⟩ := store_tabulated hnone 0 (Nat.two_pow_pos _) hvalue
  have hbefore : TabulatedOn modulus bases (SingleBelow 0) e₁ := by
    apply htab₁.mono
    rintro mask - (rfl | ⟨i, hi, -⟩)
    · exact Or.inl rfl
    · exact absurd hi (Nat.not_lt_zero i)
  obtain ⟨e₂, hsingles, htab₂⟩ := fillSingles_tabulated hm List.drop_zero hbefore
  -- the masks below three select at most one base
  have hstart : TabulatedOn modulus bases (FinishedBelow 3) e₂ := by
    apply htab₂.mono
    intro mask hmask hdone
    have hpow : ∀ i, mask = 2 ^ i → SingleBelow bases.length mask := fun i heq =>
      Or.inr ⟨i, (Nat.pow_lt_pow_iff_right (by decide)).1 (heq ▸ hmask), heq⟩
    rcases hdone with hlt | ⟨i, heq⟩
    · interval_cases mask
      · exact Or.inl rfl
      · exact hpow 0 rfl
      · exact hpow 1 rfl
    · exact hpow i heq
  have hturn : ∀ mask, 3 ≤ mask → mask < 3 + (e₂.size - 3) → ∀ s,
      TabulatedOn modulus bases (FinishedBelow mask) s →
      ∃ t, (fillProduct modulus mask).run s = .ok () t ∧
        TabulatedOn modulus bases (FinishedBelow (mask + 1)) t := by
    intro mask hlow hhigh s hs
    have hmask : mask < 2 ^ bases.length := by
      rw [← htab₂.size_eq]
      omega
    exact fillProduct_tabulated hm hwidth (by omega) hmask hs
  obtain ⟨e₃, hloop, htab₃⟩ := forM_range'_of_invariant
    (fun mask => TabulatedOn modulus bases (FinishedBelow mask)) hturn hstart
  have hall : e₃ = products modulus bases := by
    refine (htab₃.mono fun mask hmask _ => Or.inl ?_).eq_products
    rw [htab₂.size_eq]
    omega
  subst hall
  rw [fillEntries, Modular.reduce_of_pos hm, run_bind_of_ok (run_lift_ok _ _),
    run_bind_of_ok hempty, run_bind_of_ok hsingles, run_bind_of_ok (EStateM.run_get e₂)]
  exact hloop

end Filling

/-! ## The calls on a table -/

theorem blank_eq_ok {width modulus : Nat} (hpos : 1 ≤ width) (hle : width ≤ Window.maxWidth)
    (hm : 0 < modulus) :
    blank width modulus = .ok ⟨width, modulus, Array.replicate (2 ^ width) 0⟩ := by
  have hwidth : Window.requireWidth width = .ok () := Window.requireWidth_eq_ok.2 ⟨hpos, hle⟩
  rw [blank, hwidth, requireModulus_of_pos hm, Window.tableSize_eq]
  rfl

theorem wellFormed_blank {width modulus : Nat} (hpos : 1 ≤ width) (hle : width ≤ Window.maxWidth)
    (hm : 0 < modulus) :
    WellFormed ⟨width, modulus, Array.replicate (2 ^ width) 0⟩ where
  width_pos := hpos
  width_le := hle
  modulus_pos := hm
  size_eq := Array.size_replicate

variable {table : SubsetTable}

/-- A block of another width is refused, and nothing is stored. -/
theorem fill_of_length_ne {bases : List Nat} (h : bases.length ≠ table.width) :
    (fill bases).run table =
      .error (.error (.lengthMismatch table.width bases.length)) table := by
  rw [fill, run_bind_of_ok (EStateM.run_get table), if_pos h, EStateM.run_bind, run_lift_refuse]

theorem onEntries_of_ok {edit : Edit Unit} {entries : Array Nat}
    (h : edit.run table.entries = .ok () entries) :
    (onEntries edit).run table = .ok () { table with entries } := by
  simp only [EStateM.run, onEntries] at h ⊢
  rw [h]

/-- Filling a table with a block of its width gives the table of the block,
whatever the entries were. -/
theorem fill_eq_ok (h : table.WellFormed) {bases : List Nat} (hlen : bases.length = table.width) :
    (fill bases).run table = .ok () (forBases table.modulus bases) := by
  have hentries : (fillEntries table.modulus bases).run table.entries =
      .ok () (products table.modulus bases) :=
    fillEntries_eq_ok h.modulus_pos (hlen ▸ h.width_le) (by rw [h.size_eq, hlen])
  rw [fill, run_bind_of_ok (EStateM.run_get table), if_neg (not_not.2 hlen),
    onEntries_of_ok hentries, forBases, hlen]

/-- A table after filling is the table of the block. -/
theorem after_fill (h : table.WellFormed) {bases : List Nat} (hlen : bases.length = table.width) :
    table.after (fill bases) = .ok (forBases table.modulus bases) := by
  rw [after, fill_eq_ok h hlen]

/-- A filling that succeeds has made the table of its block. -/
theorem eq_forBases_of_after_fill (h : table.WellFormed) {bases : List Nat}
    {filled : SubsetTable} (hfill : table.after (fill bases) = .ok filled) :
    filled = forBases table.modulus bases := by
  by_cases hlen : bases.length = table.width
  · rw [after_fill h hlen] at hfill
    exact (Except.ok.inj hfill).symm
  · -- a block of another width is refused
    rw [after, fill_of_length_ne hlen] at hfill
    cases hfill

/-- After filling, the entry of every mask is the product of the bases at the
bits that are set, by the modulus; without a bit it is one by the modulus, which
is zero for the modulus one. The entries from before have no part in it, so two
tables of one width and one modulus end up the same. -/
theorem entry_after_fill (h : table.WellFormed) {bases : List Nat}
    (hlen : bases.length = table.width) :
    ∃ filled, table.after (fill bases) = .ok filled ∧ filled.width = table.width ∧
      filled.modulus = table.modulus ∧
      (∀ mask < 2 ^ table.width, filled.entry mask =
        .ok ((∏ j : Fin bases.length with mask.testBit j.val, bases[j]) % table.modulus)) ∧
      filled.entry 0 = .ok (1 % table.modulus) ∧
      (table.modulus = 1 → ∀ mask < 2 ^ table.width, filled.entry mask = .ok 0) ∧
      ∀ other : SubsetTable, other.WellFormed → other.width = table.width →
        other.modulus = table.modulus → other.after (fill bases) = .ok filled := by
  have hentry : ∀ mask < 2 ^ table.width, (forBases table.modulus bases).entry mask =
      .ok (subsetProduct bases mask % table.modulus) := by
    intro mask hmask
    exact entry_forBases (hlen ▸ hmask)
  refine ⟨forBases table.modulus bases, after_fill h hlen, hlen, rfl, ?_, ?_, ?_, ?_⟩
  · intro mask hmask
    rw [hentry mask hmask, subsetProduct_eq_prod]
  · rw [hentry 0 (Nat.two_pow_pos _), subsetProduct_zero]
  · intro hone mask hmask
    rw [hentry mask hmask, hone, Nat.mod_one]
  · intro other hother hwidth hmod
    rw [after_fill hother (hlen.trans hwidth.symm), hmod]

/-- A table for three bases with the remains of an earlier use, and a fresh one:
after filling they are the same, and the mask of the first and the third base
has their product, eight. -/
theorem entry_after_fill_reused :
    WellFormed ⟨3, 13, #[1, 9, 9, 3, 9, 3, 3, 9]⟩ ∧ [2, 3, 4].length = 3 ∧
      ∃ filled, after ⟨3, 13, #[1, 9, 9, 3, 9, 3, 3, 9]⟩ (fill [2, 3, 4]) = .ok filled ∧
        after ⟨3, 13, Array.replicate 8 0⟩ (fill [2, 3, 4]) = .ok filled ∧
        5 < 2 ^ 3 ∧ filled.entry 5 = .ok 8 := by
  have hwf : WellFormed ⟨3, 13, #[1, 9, 9, 3, 9, 3, 3, 9]⟩ :=
    ⟨by decide, by decide, by decide, rfl⟩
  have hfresh : WellFormed ⟨3, 13, Array.replicate 8 0⟩ :=
    wellFormed_blank (by decide) (by decide) (by decide)
  obtain ⟨filled, hfill, -, -, hentry, -, -, hother⟩ :=
    entry_after_fill hwf (show [2, 3, 4].length = 3 from rfl)
  refine ⟨hwf, rfl, filled, hfill, hother _ hfresh rfl rfl, by decide,
    (hentry 5 (by decide)).trans ?_⟩
  exact congrArg Except.ok (by decide)

/-- A width of zero or above the table's is refused, and nothing is cut off. -/
theorem shrink_of_not_le {width : Nat} (h : width = 0 ∨ table.width < width) :
    (shrink width).run table =
      .error (.error (.windowOutOfRange width table.width)) table := by
  rw [shrink, run_bind_of_ok (EStateM.run_get table), if_pos h, EStateM.run_bind, run_lift_refuse]

theorem shrink_eq_ok {width : Nat} (hpos : 1 ≤ width) (hle : width ≤ table.width) :
    (shrink width).run table =
      .ok () { table with width, entries := table.entries.take (2 ^ width) } := by
  have h : ¬ (width = 0 ∨ table.width < width) := by omega
  rw [shrink, run_bind_of_ok (EStateM.run_get table), if_neg h]
  rfl

theorem WellFormed.narrowed (h : table.WellFormed) {width : Nat} (hpos : 1 ≤ width)
    (hle : width ≤ table.width) :
    WellFormed { table with width, entries := table.entries.take (2 ^ width) } where
  width_pos := hpos
  width_le := Nat.le_trans hle h.width_le
  modulus_pos := h.modulus_pos
  size_eq := by
    have hpow : 2 ^ width ≤ 2 ^ table.width := Nat.pow_le_pow_right (by decide) hle
    simpa [h.size_eq] using hpow

/-- Narrowing the table of a block leaves the table of its first bases: no
smaller mask selects a base at or beyond the new width. -/
theorem take_products {modulus width : Nat} {bases : List Nat} (hle : width ≤ bases.length) :
    (products modulus bases).take (2 ^ width) = products modulus (bases.take width) := by
  have hlen : (bases.take width).length = width := List.length_take_of_le hle
  have hpow : 2 ^ width ≤ 2 ^ bases.length := Nat.pow_le_pow_right (by decide) hle
  refine Array.ext (by simp [hlen, hpow]) fun mask hmask hmask' => ?_
  have hlt : mask < 2 ^ width := by simpa [hlen] using hmask'
  simp [products, subsetProduct_take hlt]

end SubsetTable

end PowerProduct
