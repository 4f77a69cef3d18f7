/-!
# Log lines
-/

namespace WeatherRelay

/-- How serious a line is. -/
inductive Level where
  | info
  | warn
  | error
deriving DecidableEq, Repr

/-- The word for a level. -/
def Level.text : Level → String
  | .info => "INFO"
  | .warn => "WARN"
  | .error => "ERROR"

/-- A line of the log. -/
structure LogLine where
  level : Level
  text : String
deriving DecidableEq, Repr

namespace LogLine

def info (text : String) : LogLine := ⟨.info, text⟩
def warn (text : String) : LogLine := ⟨.warn, text⟩
def error (text : String) : LogLine := ⟨.error, text⟩

/-- A line with its level in front. -/
def render (l : LogLine) : String := l.level.text ++ " " ++ l.text

end LogLine

/-- The parts of the program that write to the log. -/
inductive Writer where
  | service
  | dispatcher
  | publisher
deriving DecidableEq, Repr

/-- A line with the part of the program that wrote it. -/
structure Entry where
  writer : Writer
  line : LogLine
deriving DecidableEq, Repr

end WeatherRelay
