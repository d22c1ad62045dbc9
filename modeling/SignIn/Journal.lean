/-!
# The journal

The log lines that the service writes, in order.
-/

namespace SignIn

inductive Level
  | debug
  | info
  | warning
  | error
  deriving DecidableEq, Repr

def Level.word : Level → String
  | debug => "DEBUG"
  | info => "INFO"
  | warning => "WARNING"
  | error => "ERROR"

/-- A log line: its level, the part of the service that wrote it, and its text. -/
structure Entry where
  level : Level
  source : String
  text : String
  deriving DecidableEq, Repr

end SignIn
