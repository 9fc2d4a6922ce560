/-
The log: messages with levels.
-/

namespace PaneWatch

/-- How important a message has to be to be logged. -/
inductive LogLevel where
  | debug
  | info
  | warning
  | error
  | critical
  deriving DecidableEq, Repr

namespace LogLevel

/-- The name of a level. -/
def name : LogLevel → String
  | debug => "DEBUG"
  | info => "INFO"
  | warning => "WARNING"
  | error => "ERROR"
  | critical => "CRITICAL"

/-- The level of a name, which has to be written exactly so. -/
def ofName? (word : String) : Option LogLevel :=
  [debug, info, warning, error, critical].find? (·.name == word)

end LogLevel

/-- A message of the log. -/
structure LogLine where
  level : LogLevel
  message : String
  deriving DecidableEq, Repr

/-- The line as it is shown. -/
def LogLine.toText (l : LogLine) : String := l.level.name ++ " " ++ l.message

end PaneWatch
