/-!
# Log lines

Every component reports what it does as a sequence of log entries.  Pure functions return the
entries they produce, and whoever runs them appends the entries to the log in order.
-/

namespace GroundLink

/-- How serious a log entry is. -/
inductive Log.Level where
  | error
  | warn
  | info
  | debug
  deriving DecidableEq, Repr, Inhabited

namespace Log

/-- The name of a level in the log. -/
def Level.label : Level → String
  | .error => "ERROR"
  | .warn => "WARN"
  | .info => "INFO"
  | .debug => "DEBUG"

/-- One line of the log. -/
structure Entry where
  level : Level
  text : String
  deriving DecidableEq, Repr, Inhabited

def error (text : String) : Entry := ⟨.error, text⟩

def warn (text : String) : Entry := ⟨.warn, text⟩

def info (text : String) : Entry := ⟨.info, text⟩

def debug (text : String) : Entry := ⟨.debug, text⟩

def Entry.render (e : Entry) : String :=
  e.level.label ++ " " ++ e.text

end Log

end GroundLink
