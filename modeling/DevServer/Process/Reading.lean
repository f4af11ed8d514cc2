import DevServer.Text.Lines
import DevServer.Text.Octets
import DevServer.Text.Utf8

/-!
# Reading output

A reader of what a process writes gets it line by line. A line is complete when its feed or the end of
the output has come.
-/

namespace DevServer.Process

open Text (Octets)

inductive Reading where
  | line (text : String)
  /-- A line is no UTF-8, and nothing more is read. -/
  | fault (message : String)
  | ended
  deriving DecidableEq, Repr

namespace Reading

/-- A complete line, with its ending; without a feed it ends the output. -/
def ofBytes (bytes : Bytes) : Reading :=
  let bytes := if bytes.getLast? = some 0x0A then Text.dropReturn 0x0D bytes.dropLast else bytes
  match Text.decode? bytes with
  | none => fault ((Text.faultText bytes).getD "")
  | some text => line text

def ofOctets (line : Octets) : Reading := ofBytes line.toBytes

/-- The readings of a piece of output, and the beginning of a line whose end has not come. At the end
of the output this is a line too. -/
def ofPiece (piece : Octets) (isEnd : Bool) : List Reading × Octets :=
  let lines := piece.splitBy fun a _ => a != '\n'
  if isEnd then (lines.map ofOctets ++ [.ended], [])
  else match lines.getLast? with
    | none => ([], [])
    | some last =>
      if last.getLast? = some '\n' then (lines.map ofOctets, [])
      else (lines.dropLast.map ofOctets, last)

end Reading

end DevServer.Process
