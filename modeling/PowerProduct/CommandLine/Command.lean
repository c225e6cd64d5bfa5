import PowerProduct.CommandLine.Options
import PowerProduct.Strategy
import PowerProduct.Text.Decimal

/-!
# Commands

The commands of the program and how a list of words is read as one. Words that
do not form a command are a usage error. The help that a program prints about
itself is left out.
-/

set_option autoImplicit false

namespace PowerProduct.CommandLine

/-- The settings of the evaluation that are given as options. -/
structure EngineOptions where
  strategy : Option Strategy := none
  windowWidth : Option Nat := none
  deriving DecidableEq, Repr

/-- A modulus and pairs as text, and how to evaluate them. -/
structure RequestOptions where
  modulus : String
  pairs : List String
  engine : EngineOptions
  deriving DecidableEq, Repr

/-- The forms of a timing report. -/
inductive ReportFormat where
  | default
  | chrome
  deriving DecidableEq, Repr

/-- The shape of a generated request, and how to evaluate it. -/
structure ProfileOptions where
  formats : List ReportFormat
  size : Nat
  exponentBits : Nat
  modulusBits : Nat
  seed : Nat
  engine : EngineOptions
  deriving DecidableEq, Repr

/-- A command of the program. -/
inductive Command where
  /-- Evaluate a request and print the result. -/
  | prodPow (options : RequestOptions)
  /-- Evaluate a request in every way and compare the results. -/
  | check (options : RequestOptions)
  /-- Evaluate a generated request by every strategy. -/
  | profile (options : ProfileOptions)
  deriving DecidableEq, Repr

/-- What the words of a command line ask for. -/
inductive Invocation where
  | version
  | command (command : Command)
  deriving DecidableEq, Repr

/-! ## The options -/

/-- The modulus of a request, in hexadecimal. -/
def modulusOption : OptionSpec := { name := "modulus", letter := some 'm' }

/-- A base and an exponent, in hexadecimal with a colon between them. -/
def pairOption : OptionSpec := { name := "pair", letter := some 'p', repeatable := true }

/-- The strategy, by its name. -/
def strategyOption : OptionSpec := { name := "strategy" }

/-- The window width. -/
def widthOption : OptionSpec := { name := "window-width", letter := some 'w' }

/-- A form of the timing report. -/
def formatOption : OptionSpec := { name := "format", letter := some 'f', repeatable := true }

/-- The number of pairs of a generated request. -/
def sizeOption : OptionSpec := { name := "size", letter := some 's' }

/-- The number of bits of a generated exponent. -/
def exponentBitsOption : OptionSpec := { name := "exponent-bits" }

/-- The number of bits of a generated modulus. -/
def modulusBitsOption : OptionSpec := { name := "modulus-bits" }

/-- The number that determines a generated request. -/
def seedOption : OptionSpec := { name := "seed" }

/-- The options of an evaluation. -/
def engineOptions : List OptionSpec := [strategyOption, widthOption]

/-- The options of a command on a request. -/
def requestOptions : List OptionSpec := [modulusOption, pairOption] ++ engineOptions

/-- The options of a command on a generated request. -/
def profileOptions : List OptionSpec :=
  [formatOption, sizeOption, exponentBitsOption, modulusBitsOption, seedOption] ++ engineOptions

/-! ## Reading a command -/

/-- A number as the value of an option. -/
def parseNumber? (value : String) : Option Nat := Text.parseWord? value.toList

/-- The form of a timing report with a name. -/
def ReportFormat.ofName? (name : String) : Option ReportFormat :=
  if name = "default" then some .default
  else if name = "chrome" then some .chrome
  else none

/-- How to evaluate, from the options given. -/
def EngineOptions.ofSettings? (settings : List Setting) : Option EngineOptions := do
  let strategy ← optional? Strategy.ofName? strategyOption settings
  let windowWidth ← optional? parseNumber? widthOption settings
  return { strategy, windowWidth }

/-- The request of a command line. A modulus and at least one pair have to be
given. -/
def RequestOptions.parse? (words : List String) : Option RequestOptions := do
  let settings ← parseSettings? requestOptions words
  let modulus ← required? modulusOption settings
  let pairs := valuesOf pairOption settings
  if pairs.isEmpty then none
  return { modulus, pairs, engine := ← EngineOptions.ofSettings? settings }

/-- The generated request of a command line. -/
def ProfileOptions.parse? (words : List String) : Option ProfileOptions := do
  let settings ← parseSettings? profileOptions words
  let formats ← (valuesOf formatOption settings).mapM ReportFormat.ofName?
  let size ← withDefault? 1024 parseNumber? sizeOption settings
  let exponentBits ← withDefault? 256 parseNumber? exponentBitsOption settings
  let modulusBits ← withDefault? 2048 parseNumber? modulusBitsOption settings
  let seed ← withDefault? 0 parseNumber? seedOption settings
  return { formats, size, exponentBits, modulusBits, seed,
           engine := ← EngineOptions.ofSettings? settings }

/-- The word asks for the program's version. -/
def asksVersion (word : String) : Bool :=
  word = "--version" || ['-', 'V'].isPrefixOf word.toList

/-- The invocation that a list of words forms, if it forms one. Help is left
out: its text is not part of this library, and a word that asks for it (`--help`,
`-h`, `help`) is like any other word that no command knows. -/
def Invocation.parse? : List String → Option Invocation
  | [] => none
  | word :: rest =>
      if asksVersion word then some .version
      else if word = "prod-pow" then
        (RequestOptions.parse? rest).map fun options => .command (.prodPow options)
      else if word = "check" then
        (RequestOptions.parse? rest).map fun options => .command (.check options)
      else if word = "profile" then
        (ProfileOptions.parse? rest).map fun options => .command (.profile options)
      else none

end PowerProduct.CommandLine
