/-!
# Log lines

A log line is kept as data, with its fields in order, and is written out only at the end.
-/

namespace ManagedBridge

inductive LogLevel
  | trace
  | debug
  | info
  | warn
  | error
  deriving DecidableEq, Repr

def LogLevel.label : LogLevel → String
  | trace => "TRACE"
  | debug => "DEBUG"
  | info => "INFO"
  | warn => "WARN"
  | error => "ERROR"

structure LogLine where
  level : LogLevel
  message : String
  fields : List (String × String) := []
  deriving DecidableEq, Repr

namespace LogLine

/-- The level, the message and the fields, with one space between them. -/
def render (l : LogLine) : String :=
  l.level.label ++ " " ++ l.message ++
    String.join (l.fields.map fun (key, value) => " " ++ key ++ "=" ++ value)

end LogLine

end ManagedBridge
