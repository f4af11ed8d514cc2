import DevServer.Failure.Location

/-!
# What can go wrong with an event's document
-/

namespace DevServer.Reload

inductive Fault where
  | encode (message : String)
  deriving DecidableEq, Repr

namespace Fault

open Failure

def text (f : Fault) (at_ : Location) : String :=
  match f with
  | encode message => located s!"Failed to encode reload event: {message}" at_

end Fault

end DevServer.Reload
