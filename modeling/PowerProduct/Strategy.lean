/-!
# Strategies

The ways to evaluate a product of powers, with the names under which a user
chooses them.
-/

set_option autoImplicit false

namespace PowerProduct

/-- A way to evaluate a product of powers. -/
inductive Strategy where
  /-- One table for every block and one sweep over all of them. -/
  | singleShot
  /-- One table, filled for one block after another. -/
  | batched
  /-- One power after another, without tables. -/
  | naive
  /-- One of the others, by the number of pairs. -/
  | auto
  deriving DecidableEq, Repr

namespace Strategy

/-- All strategies. -/
def all : List Strategy := [singleShot, batched, naive, auto]

/-- The strategy that is used unless another is chosen. -/
def default : Strategy := auto

/-- The name of a strategy. -/
def name : Strategy → String
  | singleShot => "single-shot"
  | batched => "batched"
  | naive => "naive"
  | auto => "auto"

/-- The strategy with exactly the name `text`. -/
def ofName? (text : String) : Option Strategy := all.find? fun strategy => strategy.name == text

/-- The text of the error for a name that no strategy has. -/
def unknownNameMessage : String := "Matching variant not found"

/-- Names are read back. -/
@[simp] theorem ofName?_name (strategy : Strategy) : ofName? strategy.name = some strategy := by
  cases strategy <;> decide

theorem ofName?_eq_some_iff {text : String} {strategy : Strategy} :
    ofName? text = some strategy ↔ text = strategy.name := by
  constructor
  · intro h
    have found := List.find?_some h
    exact (beq_iff_eq.mp found).symm
  · rintro rfl
    exact ofName?_name strategy

end Strategy

end PowerProduct
