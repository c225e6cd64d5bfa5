import PowerProduct.CommandLine.Run

/-!
# The program

The words of the command line and the environment go in; the output, the report
and the exit code come out.
-/

set_option autoImplicit false

namespace PowerProduct.CommandLine

/-- How the program is used. -/
def usageText : String :=
  "usage: spowm prod-pow|check -m HEX -p BASE:EXP ... [--strategy NAME] [-w WIDTH]\n" ++
  "       spowm profile [-f FORMAT] [-s N] [--exponent-bits N] [--modulus-bits N] [--seed N]\n" ++
  "       spowm --version"

/-- The bytes of an environment variable. -/
def environmentBytes (key : String) : IO (String × Option Buffer) := do
  return (key, (← IO.getEnv key).map fun value => value.toUTF8.toList)

end PowerProduct.CommandLine

open PowerProduct PowerProduct.CommandLine in
/-- Runs the program. -/
def main (words : List String) : IO UInt32 := do
  let settings ← [Config.widthVariable, Config.strategyVariable].mapM environmentBytes
  let environment := Environment.ofList <| settings.filterMap fun setting =>
    setting.2.map fun bytes => (setting.1, bytes)
  let completion := run words environment
  IO.print completion.stdout
  match completion.report with
  | some report => IO.eprintln s!"Error: {report.text}"
  | none => if completion.code = 2 then IO.eprintln usageText
  return UInt32.ofNat completion.code
