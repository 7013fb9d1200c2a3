/-!
# Log entries

What the parts of a run report about themselves besides the events of the pipeline (specification,
section 16).
-/

namespace Pipeline

/-- How much a log entry matters. -/
inductive LogLevel where
  | debug
  | info
  | warn
  | error
  deriving DecidableEq, Repr

/-- One message of a level. -/
structure LogEntry where
  level : LogLevel
  text : String
  deriving DecidableEq, Repr

namespace LogEntry

/-- An entry for those who look for faults. -/
def debug (text : String) : LogEntry := ⟨.debug, text⟩

/-- An entry about the course of things. -/
def info (text : String) : LogEntry := ⟨.info, text⟩

/-- An entry about something amiss. -/
def warn (text : String) : LogEntry := ⟨.warn, text⟩

end LogEntry

/-- The name of a level. -/
def LogLevel.name : LogLevel → String
  | .debug => "DEBUG"
  | .info => "INFO"
  | .warn => "WARN"
  | .error => "ERROR"

/-- The level, then the message. -/
def LogEntry.render (e : LogEntry) : String :=
  e.level.name ++ " " ++ e.text

end Pipeline
