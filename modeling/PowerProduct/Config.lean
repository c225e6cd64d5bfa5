import PowerProduct.Strategy
import PowerProduct.Window

/-!
# Configuration

The settings of an evaluation: the window width, the strategy, and the two
thresholds by which the strategy `auto` chooses among the others.
-/

set_option autoImplicit false

namespace PowerProduct

/-- The settings of an evaluation. Any values can be set; `Config.check` says
whether they can be used. -/
structure Config where
  /-- The number of bases that share a table. -/
  windowWidth : Nat := Window.defaultWidth
  /-- The way to evaluate. -/
  strategy : Strategy := .default
  /-- With `auto`, fewer pairs than this are evaluated without tables. -/
  naiveCutoff : Nat := 2
  /-- With `auto`, more pairs than this are evaluated block by block. -/
  singleShotLimit : Nat := 4096
  deriving DecidableEq, Repr

namespace Config

/-- The settings have to be usable: the window width has to be supported,
whatever the strategy. -/
def check (config : Config) : Outcome Unit := Window.requireWidth config.windowWidth

/-- The strategy for a request of `pairs` pairs. -/
def choose (config : Config) (pairs : Nat) : Strategy :=
  match config.strategy with
  | .auto =>
      if pairs < config.naiveCutoff then .naive
      else if config.singleShotLimit < pairs then .batched
      else .singleShot
  | strategy => strategy

/-- The choice is never left open. -/
theorem choose_ne_auto (config : Config) (pairs : Nat) : config.choose pairs ≠ .auto := by
  unfold choose
  split
  · split
    · simp
    · split <;> simp
  · assumption

end Config

end PowerProduct
