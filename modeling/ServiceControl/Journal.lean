/-!
# The journal

The log lines that operations leave behind.
-/
namespace ServiceControl

inductive Level
  | error
  | warn
  | info
  | debug
  deriving DecidableEq, Repr, Inhabited

def Level.name : Level → String
  | error => "ERROR"
  | warn => "WARN"
  | info => "INFO"
  | debug => "DEBUG"

structure LogLine where
  level : Level
  text : String
  deriving DecidableEq, Repr, Inhabited

/-- Log lines, the latest first. -/
abbrev Journal := List LogLine

/-- A line with the word for its level before it. -/
def LogLine.render (line : LogLine) : String := line.level.name ++ " " ++ line.text

end ServiceControl
