import PowerProduct.Text.Hex

/-!
# Reports

What the command line says when a command fails: a message and, where the
failure has another at its root, that failure's message.
-/

set_option autoImplicit false

namespace PowerProduct.CommandLine

/-- The message of a failure and of its cause. -/
structure Report where
  message : String
  cause : Option String := none
  deriving DecidableEq, Repr

namespace Report

/-- The report in paragraphs, the cause below the message. -/
def text (report : Report) : String :=
  match report.cause with
  | none => report.message
  | some cause => report.message ++ "\n\nCaused by:\n    " ++ cause

/-- The report on one line. -/
def line (report : Report) : String :=
  match report.cause with
  | none => report.message
  | some cause => report.message ++ ": " ++ cause

/-- The report of a text that is not a hexadecimal number. -/
def ofInvalidHex (invalid : Hex.Invalid) : Report :=
  ⟨invalid.message, some invalid.reason.message⟩

end Report

/-- Why a command stops: a report to the user, or a fault. -/
inductive Stop where
  | report (report : Report)
  | fault (fault : Fault)
  deriving DecidableEq, Repr

namespace Stop

/-- The failure of an operation, with the error's own message. -/
def ofFailure : Failure → Stop
  | .error e => report ⟨e.message, none⟩
  | .fault f => fault f

/-- The failure of an operation as the cause of the failure `message`. -/
def causedBy (message : String) : Failure → Stop
  | .error e => report ⟨message, some e.message⟩
  | .fault f => fault f

end Stop

end PowerProduct.CommandLine
