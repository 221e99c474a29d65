/-!
# Diagnostics

What validation has to say about a definition: errors, which make it unfit for drawing, and
warnings.
-/

namespace StateMachine

/-- How serious a diagnostic is. -/
inductive Severity
  | error
  | warning
deriving DecidableEq

namespace Severity

/-- The name of a severity. -/
def name : Severity → String
  | error => "Error"
  | warning => "Warning"

/-- How a severity is announced. -/
def text : Severity → String
  | error => "Compile Error"
  | warning => "Compile Warning"

end Severity

/-- One finding of validation. -/
structure Diagnostic where
  severity : Severity
  message : String
deriving DecidableEq

namespace Diagnostic

/-- Whether the finding is an error. -/
def isError (d : Diagnostic) : Bool := d.severity = .error

/-- The finding as one line of text. -/
def text (d : Diagnostic) : String := s!"{d.severity.text}: {d.message}"

end Diagnostic

end StateMachine
