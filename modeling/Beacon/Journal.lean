/-!
# The journal

Everything worth telling an operator is a `Journal.Entry`: a severity and a line of text. The
modules that have something to tell define their own causes and say which entry each makes.
-/

namespace Beacon

inductive Severity where
  | error
  | warning
  | info
  | debug
deriving DecidableEq

def Severity.name : Severity → String
  | .error => "ERROR"
  | .warning => "WARN"
  | .info => "INFO"
  | .debug => "DEBUG"

structure Journal.Entry where
  severity : Severity
  text : String
deriving DecidableEq

/-- The line as it is written: the severity, then the text. -/
def Journal.Entry.line (entry : Journal.Entry) : String :=
  entry.severity.name ++ " " ++ entry.text

end Beacon
