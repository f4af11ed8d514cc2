import DevServer.Json.Parser
import DevServer.Text.Blank

/-!
# The ready handshake

A worker says that it accepts traffic with one line on its standard output: a JSON object whose only
`type` is `ready`. Every other line is plain output.
-/

namespace DevServer.Worker

inductive Message where
  | ready
  deriving DecidableEq, Repr

def Message.ofJson? : Json → Option Message
  | .object fields =>
    match Json.valuesOf "type" fields with
    | [.string "ready"] => some ready
    | _ => none
  | _ => none

/-- The message a line is, blanks around it apart. -/
def Message.ofLine? (line : String) : Option Message :=
  (Json.parse? (Text.trimmed line)).bind ofJson?

end DevServer.Worker
