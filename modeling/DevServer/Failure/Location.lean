/-!
# Places in a source text

An error can carry the place that raised it; its text then ends in that place.
-/

namespace DevServer.Failure

/-- A file with a line and a column. -/
structure Location where
  file : String
  line : Nat
  column : Nat
  deriving DecidableEq, Repr

def Location.render (l : Location) : String := s!"[{l.file}:{l.line}:{l.column}]"

/-- A message followed by the place it comes from. -/
def located (message : String) (l : Location) : String := s!"{message} {l.render}"

end DevServer.Failure
