import DevServer.Build.Target
import DevServer.Calendar
import DevServer.Json.Printer
import DevServer.Path

/-!
# Build events

A build event reports one finished build of one target.
-/

namespace DevServer.Build

structure Event where
  target : Target
  success : Bool
  /-- Counted from 1, which is the build at the start. -/
  build : Nat
  time : Instant
  /-- The paths whose changes led to the build; none for the first. -/
  changed : List Path
  touchedServer : Bool
  deriving DecidableEq, Repr

namespace Event

/-- The document of an event, unless a path is not UTF-8. -/
def toJson? (e : Event) : Option Json := do
  let changed ← e.changed.mapM Path.text?
  return .object [
    ("target", .string e.target.name),
    ("success", .bool e.success),
    ("build_id", .number (.ofNat e.build)),
    ("timestamp", .string e.time.rfc3339),
    ("changed", .array (changed.map .string)),
    ("touched_server_components", .bool e.touchedServer)]

def badPath : String := "path contains invalid UTF-8 characters"

end Event

end DevServer.Build
