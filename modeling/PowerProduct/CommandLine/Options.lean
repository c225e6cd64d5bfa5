/-!
# Options on a command line

Every option takes a value. The value stands in the same word as the option
(`--name=value`, `-nvalue`, `-n=value`) or is the next word, which then does
not begin with a hyphen unless it is a single hyphen. An option that is not
repeatable is given at most once. A word `--` ends the options, and nothing
follows it.
-/

set_option autoImplicit false

namespace PowerProduct.CommandLine

/-- An option: its long name, its letter if it has one, and whether it may be
given more than once. -/
structure OptionSpec where
  name : String
  letter : Option Char := none
  repeatable : Bool := false
  deriving DecidableEq, Repr

/-- An option as it is given, with its value. -/
structure Setting where
  spec : OptionSpec
  value : String
  deriving DecidableEq, Repr

namespace OptionSpec

/-- The option with a long name. -/
def withName? (specs : List OptionSpec) (name : List Char) : Option OptionSpec :=
  specs.find? fun spec => spec.name.toList == name

/-- The option with a letter. -/
def withLetter? (specs : List OptionSpec) (letter : Char) : Option OptionSpec :=
  specs.find? fun spec => spec.letter == some letter

end OptionSpec

/-- The value in the rest of a word after an option's letter; an equals sign
in front of it is left out. An empty rest holds no value. -/
def letterValue? : List Char → Option String
  | [] => none
  | '=' :: rest => some (String.ofList rest)
  | rest => some (String.ofList rest)

/-- The value after a long name, which an equals sign introduces. -/
def nameValue? : List Char → Option String
  | '=' :: rest => some (String.ofList rest)
  | _ => none

/-- The option that a word gives, and its value if the word holds it. -/
def readWord? (specs : List OptionSpec) : List Char → Option (OptionSpec × Option String)
  | '-' :: '-' :: word => do
      let spec ← OptionSpec.withName? specs (word.takeWhile (· ≠ '='))
      return (spec, nameValue? (word.dropWhile (· ≠ '=')))
  | '-' :: letter :: rest => do
      return (← OptionSpec.withLetter? specs letter, letterValue? rest)
  | _ => none

/-- The word can be the value of the option in front of it. -/
def standsAsValue (word : String) : Bool :=
  match word.toList with
  | ['-'] => true
  | '-' :: _ => false
  | _ => true

/-- The options that a list of words gives, if every word belongs to one. -/
def readSettings? (specs : List OptionSpec) : List String → Option (List Setting)
  | [] => some []
  | word :: rest =>
      if word = "--" then if rest.isEmpty then some [] else none
      else
        match readWord? specs word.toList, rest with
        | some (spec, some value), rest => do
            return ⟨spec, value⟩ :: (← readSettings? specs rest)
        | some (spec, none), value :: rest =>
            if standsAsValue value then do return ⟨spec, value⟩ :: (← readSettings? specs rest)
            else none
        | _, _ => none

/-- The values of an option, in the order in which they are given. -/
def valuesOf (spec : OptionSpec) (settings : List Setting) : List String :=
  (settings.filter fun setting => setting.spec = spec).map (·.value)

/-- No option is given more often than it may be. -/
def withinLimits (specs : List OptionSpec) (settings : List Setting) : Bool :=
  specs.all fun spec => spec.repeatable || (valuesOf spec settings).length ≤ 1

/-- The options of a list of words, each within its limit. -/
def parseSettings? (specs : List OptionSpec) (words : List String) : Option (List Setting) :=
  (readSettings? specs words).filter (withinLimits specs)

/-- The value of an option that may be left out, read by `parse?`. The outer
result is `none` when the value cannot be read. -/
def optional? {α : Type} (parse? : String → Option α) (spec : OptionSpec)
    (settings : List Setting) : Option (Option α) :=
  match valuesOf spec settings with
  | [] => some none
  | value :: _ => (parse? value).map some

/-- The value of an option with a default. -/
def withDefault? {α : Type} (default : α) (parse? : String → Option α) (spec : OptionSpec)
    (settings : List Setting) : Option α :=
  (optional? parse? spec settings).map (·.getD default)

/-- The value of an option that has to be given. -/
def required? (spec : OptionSpec) (settings : List Setting) : Option String :=
  (valuesOf spec settings).head?

end PowerProduct.CommandLine
