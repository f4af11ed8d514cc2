import DevServer.Log.Level

/-!
# Log lines
-/

namespace DevServer.Log

/-- One line of the log. -/
structure Line where
  level : Level
  text : String
  deriving DecidableEq, Repr

namespace Line

def error (text : String) : Line := ⟨.error, text⟩

def warn (text : String) : Line := ⟨.warn, text⟩

def info (text : String) : Line := ⟨.info, text⟩

def debug (text : String) : Line := ⟨.debug, text⟩

/-- The level's name and the text. -/
def render (l : Line) : String := s!"{l.level.name} {l.text}"

end Line

end DevServer.Log
