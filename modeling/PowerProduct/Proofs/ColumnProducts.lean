import Mathlib
import PowerProduct.Proofs.StrategyAgreement
import PowerProduct.Request

/-!
# Columns as requests of their own

The columns of a matrix are requests that share their exponents and their
modulus. The matrix and the configuration are checked once for all columns, and
`ColumnRefusal` lists the reasons for which they are refused. After that no
column can fail: its reader serves the entries of the column (`serves_reader_of_rows`), so
it has the value of a request over these entries, under any configuration with a
supported width. The relation `ColumnAnswer` lists the answers of a matrix, and
`evaluateColumns_iff_answer` states that the operation gives exactly these.
-/

set_option autoImplicit false

namespace PowerProduct

/-! ## Reading a column -/

namespace MatrixColumn

variable {rows : List (List Nat)} {columns column : Nat}

theorem cell_eq_ok {row : List Nat} (h : column < row.length) :
    cell column row = .ok (row.getD column 0) := by
  rw [cell, List.getElem?_eq_getElem h, List.getD_eq_getElem _ _ h]

/-- The entries of a column in a range of rows are the range of its entries. -/
theorem mapM_cell_entriesBetween (hrows : ∀ row ∈ rows, row.length = columns)
    (hcolumn : column < columns) (start stop : Nat) :
    (do (← entriesBetween rows start stop).mapM (cell column) : Except Fault (List Nat)) =
      entriesBetween (rows.map fun row => row.getD column 0) start stop := by
  unfold entriesBetween
  rw [List.length_map]
  split
  · have hcell : ∀ row ∈ (rows.drop start).take (stop - start),
        cell column row = .ok (row.getD column 0) := by
      intro row hmem
      have hrow : row ∈ rows := List.mem_of_mem_drop (List.mem_of_mem_take hmem)
      exact cell_eq_ok (by rw [hrows row hrow]; exact hcolumn)
    rw [← List.map_drop, ← List.map_take]
    exact mapM_eq_ok hcell
  · rfl

/-- The reader of a column serves the entries of the column and the exponents. -/
theorem serves_reader_of_rows {exponents : List Nat} (hlen : rows.length = exponents.length)
    (hrows : ∀ row ∈ rows, row.length = columns) (hcolumn : column < columns) :
    (reader ⟨rows, column, exponents⟩).Serves (rows.map fun row => row.getD column 0)
      exponents where
  count_bases := (List.length_map ..).symm
  count_exponents := hlen
  bases_eq start stop _ _ := mapM_cell_entriesBetween hrows hcolumn start stop
  exponents_eq _ _ _ _ := rfl

end MatrixColumn

namespace Request

/-! ## The value of a request -/

/-- A request with pairs, under a positive modulus and a supported width, has
the product of its powers as its value. -/
theorem evaluate_eq_ok {request : Request} {config : Config} (hne : request.bases ≠ [])
    (hlen : request.bases.length = request.exponents.length) (hm : 0 < request.modulus)
    (hwidth : 1 ≤ config.windowWidth ∧ config.windowWidth ≤ Window.maxWidth) :
    request.evaluate config =
      .ok (productOfPowers (request.bases.zip request.exponents) % request.modulus) := by
  have hserves : (NumberPairs.reader ⟨request.bases, request.exponents⟩).Serves request.bases
      request.exponents :=
    NumberPairs.serves_reader hlen
  have hpairs : request.bases.zip request.exponents ≠ [] := by
    intro hzip
    rcases List.zip_eq_nil_iff.1 hzip with hbases | hexponents
    · exact hne hbases
    · rw [hexponents, List.length_nil, List.length_eq_zero_iff] at hlen
      exact hne hlen
  rw [evaluate, NumberPairs.ofLists, requirePairs_of_ne_nil hne hlen, ok_bind]
  refine (Engine.evaluate_outcome hserves.zip request.modulus config).trans ?_
  rw [Engine.configuredAnswer, if_neg hm.ne', if_pos hwidth, if_neg hpairs]

/-! ## The shape of a matrix -/

/-- A matrix with at least one row, one exponent for each row, and `columns`
entries in every row. -/
structure Shaped (rows : List (List Nat)) (exponents : List Nat) (columns : Nat) : Prop where
  nonempty : rows ≠ []
  length_eq : rows.length = exponents.length
  uniform : ∀ row ∈ rows, row.length = columns

/-- Why a matrix is refused. Each reason stands after the absence of those
before it. A ragged row is the first whose length differs from that of the row
at the front. -/
inductive ColumnRefusal (rows : List (List Nat)) (exponents : List Nat) (modulus : Nat)
    (config : Config) : Error → Prop where
  | noRows (hnil : rows = []) : ColumnRefusal rows exponents modulus config .noPairs
  | lengthMismatch (hne : rows ≠ []) (hlen : rows.length ≠ exponents.length) :
      ColumnRefusal rows exponents modulus config
        (.lengthMismatch rows.length exponents.length)
  | raggedRow {first row : List Nat} {before after : List (List Nat)}
      (hlen : rows.length = exponents.length) (hfirst : rows.head? = some first)
      (hrows : rows = before ++ row :: after)
      (hbefore : ∀ earlier ∈ before, earlier.length = first.length)
      (hragged : row.length ≠ first.length) :
      ColumnRefusal rows exponents modulus config (.lengthMismatch first.length row.length)
  | zeroModulus {columns : Nat} (hshape : Shaped rows exponents columns) (hzero : modulus = 0) :
      ColumnRefusal rows exponents modulus config .zeroModulus
  | windowOutOfRange {columns : Nat} (hshape : Shaped rows exponents columns) (hm : 0 < modulus)
      (hwidth : ¬ (1 ≤ config.windowWidth ∧ config.windowWidth ≤ Window.maxWidth)) :
      ColumnRefusal rows exponents modulus config
        (.windowOutOfRange config.windowWidth Window.maxWidth)

section Shape

variable {rows : List (List Nat)} {exponents : List Nat} {modulus columns : Nat} {config : Config}

/-- The check of a matrix with the row `first` at its front. -/
theorem requireShape_of_head {first : List Nat} (hfirst : rows.head? = some first)
    (hlen : rows.length = exponents.length) :
    requireShape rows exponents =
      match rows.find? fun row => row.length != first.length with
      | some row => refuse (.lengthMismatch first.length row.length)
      | none => .ok first.length := by
  cases rows with
  | nil => simp at hfirst
  | cons row rest =>
      obtain rfl : row = first := by simpa using hfirst
      simp only [requireShape, hlen, ne_eq, not_true_eq_false, if_false]
      rfl

theorem requireShape_of_shaped (h : Shaped rows exponents columns) :
    requireShape rows exponents = .ok columns := by
  obtain ⟨first, rest, rfl⟩ := List.exists_cons_of_ne_nil h.nonempty
  have hfirst : first.length = columns := h.uniform first List.mem_cons_self
  have hfind : (first :: rest).find? (fun row => row.length != first.length) = none := by
    rw [List.find?_eq_none]
    intro row hmem
    simp [hfirst, h.uniform row hmem]
  rw [requireShape_of_head rfl h.length_eq, hfind, hfirst]

theorem evaluateColumns_of_shape_refused {e : Error}
    (h : requireShape rows exponents = refuse e) :
    evaluateColumns rows exponents modulus config = refuse e := by
  rw [evaluateColumns, h, refuse_bind]

theorem evaluateColumns_of_refusal {e : Error}
    (h : ColumnRefusal rows exponents modulus config e) :
    evaluateColumns rows exponents modulus config = refuse e := by
  cases h with
  | noRows hnil =>
      subst hnil
      rfl
  | lengthMismatch hne hlen =>
      apply evaluateColumns_of_shape_refused
      obtain ⟨first, rest, rfl⟩ := List.exists_cons_of_ne_nil hne
      simp only [requireShape, if_pos hlen, refuse_bind]
  | @raggedRow first row before after hlen hfirst hrows hbefore hragged =>
      apply evaluateColumns_of_shape_refused
      have hfind : rows.find? (fun row => row.length != first.length) = some row := by
        rw [List.find?_eq_some_iff_append]
        refine ⟨by simpa using hragged, before, after, hrows, ?_⟩
        intro earlier hmem
        simp [hbefore earlier hmem]
      rw [requireShape_of_head hfirst hlen, hfind]
  | zeroModulus hshape hzero =>
      rw [evaluateColumns, requireShape_of_shaped hshape, ok_bind, requireModulus, if_pos hzero,
        refuse_bind]
  | windowOutOfRange hshape hm hwidth =>
      rw [evaluateColumns, requireShape_of_shaped hshape, ok_bind, requireModulus_of_pos hm,
        ok_bind, Config.check, Window.requireWidth_eq, if_neg hwidth, refuse_bind]

/-- A matrix without a reason to be refused is shaped, under a positive modulus
and a supported width. -/
theorem columnRefusal_or_shaped (rows : List (List Nat)) (exponents : List Nat) (modulus : Nat)
    (config : Config) :
    (∃ e, ColumnRefusal rows exponents modulus config e) ∨
      (∃ columns, Shaped rows exponents columns) ∧ 0 < modulus ∧
        1 ≤ config.windowWidth ∧ config.windowWidth ≤ Window.maxWidth := by
  by_cases hne : rows = []
  · exact Or.inl ⟨_, .noRows hne⟩
  by_cases hlen : rows.length = exponents.length
  case neg => exact Or.inl ⟨_, .lengthMismatch hne hlen⟩
  obtain ⟨first, rest, hcons⟩ := List.exists_cons_of_ne_nil hne
  have hfirst : rows.head? = some first := by rw [hcons, List.head?_cons]
  cases hfind : rows.find? fun row => row.length != first.length with
  | some row =>
      obtain ⟨hragged, before, after, hrows, hbefore⟩ := List.find?_eq_some_iff_append.1 hfind
      refine Or.inl ⟨_, .raggedRow hlen hfirst hrows ?_ (by simpa using hragged)⟩
      intro earlier hmem
      simpa using hbefore earlier hmem
  | none =>
      have huniform : ∀ row ∈ rows, row.length = first.length := by
        intro row hmem
        simpa using List.find?_eq_none.1 hfind row hmem
      have hshape : Shaped rows exponents first.length := ⟨hne, hlen, huniform⟩
      rcases Nat.eq_zero_or_pos modulus with hzero | hm
      · exact Or.inl ⟨_, .zeroModulus hshape hzero⟩
      by_cases hwidth : 1 ≤ config.windowWidth ∧ config.windowWidth ≤ Window.maxWidth
      · exact Or.inr ⟨⟨_, hshape⟩, hm, hwidth⟩
      · exact Or.inl ⟨_, .windowOutOfRange hshape hm hwidth⟩

end Shape

/-! ## The columns -/

/-- The request of one column: its entry in every row, with the exponent of the
row. In a shaped matrix every row has the entry. -/
def ofColumn (rows : List (List Nat)) (exponents : List Nat) (modulus column : Nat) : Request :=
  ⟨rows.map fun row => row.getD column 0, exponents, modulus⟩

/-- The requests of the first `columns` columns, in order. -/
def ofColumns (rows : List (List Nat)) (exponents : List Nat) (modulus columns : Nat) :
    List Request :=
  (List.range columns).map (ofColumn rows exponents modulus)

/-- The product of powers of one column. -/
def columnProduct (rows : List (List Nat)) (exponents : List Nat) (modulus column : Nat) : Nat :=
  productOfPowers ((rows.map fun row => row.getD column 0).zip exponents) % modulus

section Columns

variable {rows : List (List Nat)} {exponents : List Nat} {modulus columns : Nat} {config : Config}
  (hshape : Shaped rows exponents columns) (hm : 0 < modulus)
  (hwidth : 1 ≤ config.windowWidth ∧ config.windowWidth ≤ Window.maxWidth)
include hshape hm hwidth

theorem evaluate_ofColumn (column : Nat) :
    (ofColumn rows exponents modulus column).evaluate config =
      .ok (columnProduct rows exponents modulus column) := by
  apply evaluate_eq_ok
  · simpa [ofColumn] using hshape.nonempty
  · simpa [ofColumn] using hshape.length_eq
  · exact hm
  · exact hwidth

theorem evaluateAll_ofColumns :
    evaluateAll (ofColumns rows exponents modulus columns) config =
      ((List.range columns).map (columnProduct rows exponents modulus)).map .ok := by
  rw [evaluateAll, ofColumns, List.map_map, List.map_map]
  apply List.map_congr_left
  intro column _
  exact evaluate_ofColumn hshape hm hwidth column

theorem evaluate_reader {column : Nat} (hcolumn : column < columns) :
    (Engine.evaluate (MatrixColumn.reader ⟨rows, column, exponents⟩) modulus config).outcome =
      .ok (columnProduct rows exponents modulus column) := by
  have hserves :=
    (MatrixColumn.serves_reader_of_rows hshape.length_eq hshape.uniform hcolumn).zip
  have hpairs : (rows.map fun row => row.getD column 0).zip exponents ≠ [] := by
    rw [← List.length_pos_iff, ← hserves.count_eq]
    exact List.length_pos_iff.2 hshape.nonempty
  rw [Engine.evaluate_outcome hserves, Engine.configuredAnswer, if_neg hm.ne', if_pos hwidth,
    if_neg hpairs, columnProduct]

theorem evaluateColumns_of_shaped :
    evaluateColumns rows exponents modulus config =
      .ok ((List.range columns).map (columnProduct rows exponents modulus)) := by
  rw [evaluateColumns, requireShape_of_shaped hshape, ok_bind, requireModulus_of_pos hm, ok_bind,
    Config.check, Window.requireWidth_eq, if_pos hwidth, ok_bind]
  apply mapM_eq_ok
  intro column hmem
  exact evaluate_reader hshape hm hwidth (List.mem_range.1 hmem)

end Columns

/-! ## The answers -/

/-- The answers of a matrix: its refusal, or one number for each column, which
are the values of the columns' requests, in order, under every configuration
with a supported width. -/
inductive ColumnAnswer (rows : List (List Nat)) (exponents : List Nat) (modulus : Nat)
    (config : Config) : Outcome (List Nat) → Prop where
  | refused {e : Error} (h : ColumnRefusal rows exponents modulus config e) :
      ColumnAnswer rows exponents modulus config (refuse e)
  | products {columns : Nat} {values : List Nat} (hshape : Shaped rows exponents columns)
      (hm : 0 < modulus)
      (hwidth : 1 ≤ config.windowWidth ∧ config.windowWidth ≤ Window.maxWidth)
      (hlen : values.length = columns)
      (hvalues : ∀ other : Config,
        1 ≤ other.windowWidth ∧ other.windowWidth ≤ Window.maxWidth →
        evaluateAll (ofColumns rows exponents modulus columns) other = values.map .ok) :
      ColumnAnswer rows exponents modulus config (.ok values)

section Answers

variable {rows : List (List Nat)} {exponents : List Nat} {modulus : Nat} {config : Config}

/-- An answer is what the operation gives. -/
theorem ColumnAnswer.eq {answer : Outcome (List Nat)}
    (h : ColumnAnswer rows exponents modulus config answer) :
    evaluateColumns rows exponents modulus config = answer := by
  cases h with
  | refused h => exact evaluateColumns_of_refusal h
  | @products columns values hshape hm hwidth hlen hvalues =>
      -- the configuration itself is one of those that fix the values
      have hsame := (evaluateAll_ofColumns hshape hm hwidth).symm.trans (hvalues config hwidth)
      have hinjective : Function.Injective (Except.ok : Nat → Outcome Nat) :=
        fun _ _ => Except.ok.inj
      rw [evaluateColumns_of_shaped hshape hm hwidth, List.map_injective_iff.2 hinjective hsame]

theorem exists_columnAnswer (rows : List (List Nat)) (exponents : List Nat) (modulus : Nat)
    (config : Config) : ∃ answer, ColumnAnswer rows exponents modulus config answer := by
  rcases columnRefusal_or_shaped rows exponents modulus config with
    ⟨e, h⟩ | ⟨⟨columns, hshape⟩, hm, hwidth⟩
  · exact ⟨_, .refused h⟩
  · have hlen : ((List.range columns).map (columnProduct rows exponents modulus)).length =
        columns := by
      rw [List.length_map, List.length_range]
    exact ⟨_, .products hshape hm hwidth hlen fun _ hother =>
      evaluateAll_ofColumns hshape hm hother⟩

end Answers

/-- The columns of a matrix have exactly the answer that is due: the refusal of
the matrix, also when it has no columns, or the values of its columns as
independent requests. -/
theorem evaluateColumns_iff_answer (rows : List (List Nat)) (exponents : List Nat)
    (modulus : Nat) (config : Config) (answer : Outcome (List Nat)) :
    evaluateColumns rows exponents modulus config = answer ↔
      ColumnAnswer rows exponents modulus config answer := by
  obtain ⟨due, hdue⟩ := exists_columnAnswer rows exponents modulus config
  constructor
  · rintro rfl
    rw [hdue.eq]
    exact hdue
  · exact ColumnAnswer.eq

end Request

end PowerProduct
