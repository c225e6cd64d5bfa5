import PowerProduct.Config
import PowerProduct.Text.Blank
import PowerProduct.Text.Decimal

/-!
# Configuration from the environment

Two variables change the default settings. Their values may stand between
blanks. A value that cannot be read is reported as it was given; the width is
read before the strategy, and only then is the width's range checked.
-/

set_option autoImplicit false

namespace PowerProduct

/-- The values of variables as bytes; a variable without a value is unset. -/
abbrev Environment := String → Option Buffer

namespace Environment

/-- The value of a variable as text. A value that is not valid UTF-8 counts as
unset. -/
def text? (environment : Environment) (key : String) : Option String := do
  String.fromUTF8? ⟨(← environment key).toArray⟩

/-- The environment with the given variables, of which the first of a name
counts. -/
def ofList (settings : List (String × Buffer)) : Environment :=
  fun key => (settings.find? fun setting => setting.1 == key).map (·.2)

end Environment

namespace Config

/-- The variable that sets the window width. -/
def widthVariable : String := "SPOWM_WINDOW_WIDTH"

/-- The variable that sets the strategy. -/
def strategyVariable : String := "SPOWM_STRATEGY"

/-- The width in the value of its variable, if the variable is set. -/
def readWidth (default : Nat) : Option String → Outcome Nat
  | none => .ok default
  | some value =>
      match Text.parseWord? (Text.trim value.toList) with
      | some width => .ok width
      | none => refuse (.badSetting widthVariable value)

/-- The strategy in the value of its variable, if the variable is set. -/
def readStrategy (default : Strategy) : Option String → Outcome Strategy
  | none => .ok default
  | some value =>
      match Strategy.ofName? (String.ofList (Text.trim value.toList)) with
      | some strategy => .ok strategy
      | none => refuse (.badSetting strategyVariable value)

/-- The default settings, changed by the variables that `lookup` finds. -/
def ofLookup (lookup : String → Option String) : Outcome Config := do
  let defaults : Config := {}
  let windowWidth ← readWidth defaults.windowWidth (lookup widthVariable)
  let strategy ← readStrategy defaults.strategy (lookup strategyVariable)
  let config := { defaults with windowWidth, strategy }
  config.check
  return config

/-- The default settings, changed by the environment. -/
def ofEnvironment (environment : Environment) : Outcome Config := ofLookup environment.text?

end Config

end PowerProduct
