import PowerProduct.CommandLine.Command
import PowerProduct.CommandLine.Report
import PowerProduct.Encoded
import PowerProduct.Environment
import PowerProduct.Tape

/-!
# Running commands

What each command prints and how it ends. A command takes its settings from the
environment and its options, then reads its pairs and its modulus, and then
evaluates; the first failure in this order is reported.
-/

set_option autoImplicit false

namespace PowerProduct.CommandLine

/-- How the program ends: its exit code, what it has printed, and its report if
it fails. -/
structure Completion where
  code : Nat
  stdout : String
  report : Option Report := none
  deriving DecidableEq, Repr

namespace Completion

/-- The end of a command that succeeds. -/
def success (stdout : String) : Completion := { code := 0, stdout }

/-- The end of a command that stops after it has printed `stdout`. -/
def stopped (stdout : String) : Stop → Completion
  | .report report => { code := 1, stdout, report }
  | .fault _ => { code := 101, stdout }

/-- The end of a program whose words form no command. -/
def usage : Completion := { code := 2, stdout := "" }

end Completion

/-- The result of a library operation, as a step of a command. -/
def attempt {α : Type} (outcome : Outcome α) : Except Stop α := outcome.mapError Stop.ofFailure

/-! ## Settings -/

/-- The settings of an evaluation: those of the environment, with the options
given in their place. The environment has to be valid also where an option
replaces it. -/
def effectiveConfig (options : EngineOptions) (environment : Environment) :
    Except Stop Config := do
  let base ← (Config.ofEnvironment environment).mapError
    (Stop.causedBy "reading SPOWM_* environment")
  let config := { base with
    strategy := options.strategy.getD base.strategy
    windowWidth := options.windowWidth.getD base.windowWidth }
  attempt config.check
  return config

/-! ## Requests -/

/-- A request in buffers. -/
structure EncodedRequest where
  bases : List Buffer
  exponents : List Buffer
  modulus : Buffer
  deriving DecidableEq, Repr

/-- The buffer that a word denotes. -/
def parseNumeral (text : String) : Except Stop Buffer :=
  (Hex.parse text).mapError fun invalid => .report (.ofInvalidHex invalid)

/-- The text in front of the first colon and the text after it. -/
def splitPair? (text : List Char) : Option (List Char × List Char) :=
  match text.dropWhile (· ≠ ':') with
  | [] => none
  | _ :: exponent => some (text.takeWhile (· ≠ ':'), exponent)

/-- The base and the exponent that a word denotes. -/
def parsePair (text : String) : Except Stop (Buffer × Buffer) :=
  match splitPair? text.toList with
  | none => .error (.report ⟨s!"expected BASE:EXP, got {Text.quote text}", none⟩)
  | some (base, exponent) => do
      return (← parseNumeral (String.ofList base), ← parseNumeral (String.ofList exponent))

/-- The request that the options of a command denote. The bases are padded to
one width, and so are the exponents. -/
def EncodedRequest.ofOptions (options : RequestOptions) : Except Stop EncodedRequest := do
  let pairs ← options.pairs.mapM parsePair
  let modulus ← parseNumeral options.modulus
  return { bases := Buffer.align (pairs.map (·.1))
           exponents := Buffer.align (pairs.map (·.2))
           modulus }

/-- The value of a request under a configuration. -/
def EncodedRequest.evaluate (request : EncodedRequest) (config : Config) : Except Stop Buffer :=
  attempt (Encoded.powerProductWith config request.bases request.exponents request.modulus)

/-- The value of a request by one strategy, with the default settings. -/
def EncodedRequest.evaluateBy (request : EncodedRequest) (strategy : Strategy) :
    Except Stop Buffer :=
  attempt (Encoded.powerProductBy strategy request.bases request.exponents request.modulus)

/-- The value of a request from all its powers, each computed on its own. -/
def EncodedRequest.elementwise (request : EncodedRequest) : Except Stop Buffer := attempt do
  let powers ← Encoded.powers request.bases request.exponents request.modulus
  Encoded.productAll powers request.modulus

/-! ## The commands -/

/-- The settings and the request of a command. -/
def prepare (options : RequestOptions) (environment : Environment) :
    Except Stop (Config × EncodedRequest) := do
  let config ← effectiveConfig options.engine environment
  return (config, ← EncodedRequest.ofOptions options)

/-- The line that `prod-pow` prints. -/
def prodPowLine (options : RequestOptions) (environment : Environment) : Except Stop String := do
  let (config, request) ← prepare options environment
  return Hex.encode (← request.evaluate config) ++ "\n"

/-- The run of `prod-pow`. -/
def runProdPow (options : RequestOptions) (environment : Environment) : Completion :=
  match prodPowLine options environment with
  | .ok line => .success line
  | .error stop => .stopped "" stop

/-- The value of a request by every method, with the method's name. -/
def allResults (config : Config) (request : EncodedRequest) :
    Except Stop (List (String × Buffer)) := do
  let singleShot ← request.evaluate { config with strategy := .singleShot }
  let batched ← request.evaluate { config with strategy := .batched }
  let naive ← request.evaluateBy .naive
  let elementwise ← request.elementwise
  return [(Strategy.singleShot.name, singleShot), (Strategy.batched.name, batched),
    (Strategy.naive.name, naive), ("elementwise", elementwise)]

/-- The text with spaces in front of it up to `width` characters. -/
def alignRight (width : Nat) (text : String) : String :=
  String.ofList (List.replicate (width - text.length) ' ') ++ text

/-- The line that shows the result of one method. -/
def resultLine (result : String × Buffer) : String :=
  alignRight 12 result.1 ++ ": " ++ Hex.encode result.2 ++ "\n"

/-- All results are the same. -/
def allEqual (results : List (String × Buffer)) : Bool :=
  match results with
  | [] => true
  | (_, first) :: rest => rest.all fun result => result.2 == first

/-- The results that `check` compares. -/
def checkResults (options : RequestOptions) (environment : Environment) :
    Except Stop (List (String × Buffer)) := do
  let (config, request) ← prepare options environment
  allResults config request

/-- The run of `check`. The results are printed also when they differ. -/
def runCheck (options : RequestOptions) (environment : Environment) : Completion :=
  match checkResults options environment with
  | .error stop => .stopped "" stop
  | .ok results =>
      let lines := String.join (results.map resultLine)
      if allEqual results then .success lines
      else .stopped lines (.report ⟨"strategies disagree", none⟩)

/-! ## Profiles -/

/-- The buffer with its number made odd and its bit `bits - 1` set, where the
buffer has just the bytes that `bits` bits need. -/
def oddFullLength (bits : Nat) : Buffer → Outcome Buffer
  | [] => abort (.indexOutOfBounds 0 0)
  | first :: rest =>
      let marked := (first ||| (1 <<< UInt8.ofNat ((bits - 1) % 8))) :: rest
      .ok (marked.modify (marked.length - 1) (· ||| 1))

/-- A request of the given shape with its numbers drawn off `tape`: the modulus,
the bases and then the exponents. -/
def EncodedRequest.generate (options : ProfileOptions) (tape : Tape) : Outcome EncodedRequest := do
  let (drawn, tape) ← tape.draw options.modulusBits
  let modulus ← oddFullLength options.modulusBits drawn
  let (bases, tape) ← tape.drawAll (List.replicate options.size (options.modulusBits - 1))
  let (exponents, _) ← tape.drawAll (List.replicate options.size options.exponentBits)
  return { bases, exponents, modulus }

/-- The strategies that a profile compares, the first as the reference. -/
def profiledStrategies : List Strategy := [.singleShot, .batched, .naive]

/-- Evaluates a request by each of the strategies and compares the results. -/
def compareStrategies (config : Config) (request : EncodedRequest) :
    Option Buffer → List Strategy → Except Stop Unit
  | _, [] => .ok ()
  | reference, strategy :: rest => do
      let result ← request.evaluate { config with strategy }
      match reference with
      | none => compareStrategies config request (some result) rest
      | some expected =>
          if expected ≠ result then
            throw (.report ⟨s!"{strategy.name} disagrees with single-shot", none⟩)
          compareStrategies config request reference rest

/-- The checks and the work of `profile`. The numbers of the request are drawn
off the tape that `generator` has for the seed. -/
def profile (generator : Nat → Tape) (options : ProfileOptions) (environment : Environment) :
    Except Stop Unit := do
  if options.size = 0 ∨ options.modulusBits < 2 then
    throw (.report
      ⟨"profile needs at least one pair and a modulus of at least 2 bits", none⟩)
  let config ← effectiveConfig options.engine environment
  let request ← attempt (EncodedRequest.generate options (generator options.seed))
  compareStrategies config request none profiledStrategies

/-- The run of `profile`, which prints nothing. -/
def runProfile (generator : Nat → Tape) (options : ProfileOptions) (environment : Environment) :
    Completion :=
  match profile generator options environment with
  | .ok () => .success ""
  | .error stop => .stopped "" stop

/-! ## The program -/

/-- The line that shows the program's version. -/
def versionLine : String := "spowm 0.1.0\n"

/-- The run of a command. -/
def Command.run (generator : Nat → Tape) (environment : Environment) : Command → Completion
  | .prodPow options => runProdPow options environment
  | .check options => runCheck options environment
  | .profile options => runProfile generator options environment

/-- The tape that repeats the bytes of a seed. -/
def repeatedSeed (seed : Nat) : Tape := Tape.cycle (Buffer.digits seed)

/-- The run of the program on the words of its command line. Any `generator`
will do, since the end of a command does not depend on what it draws. -/
def run (words : List String) (environment : Environment)
    (generator : Nat → Tape := repeatedSeed) : Completion :=
  match Invocation.parse? words with
  | none => .usage
  | some .version => .success versionLine
  | some (.command command) => command.run generator environment

end PowerProduct.CommandLine
