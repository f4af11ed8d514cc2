import DevServer.Failure.Cause
import DevServer.Failure.Location

/-!
# What can go wrong with a worker
-/

namespace DevServer.Worker

open Failure

inductive Fault where
  | spawn (program : String) (cause : Cause)
  | notReady (timeoutMs : Nat)
  /-- The worker has exited with a code, or a signal has ended it. -/
  | exited (code : Option Int)
  | signal (pid : Nat) (message : String)
  deriving DecidableEq, Repr

namespace Fault

def codeText : Option Int → String
  | some c => s!"Some({c})"
  | none => "None"

def message : Fault → String
  | spawn program cause => s!"Failed to spawn worker `{program}`: {cause.message}"
  | notReady ms => s!"Worker did not report ready within {ms}ms"
  | exited code => s!"Worker exited abnormally with code {codeText code}"
  | signal pid message => s!"Failed to signal worker {pid}: {message}"

def text (f : Fault) (at_ : Location) : String := located f.message at_

/-- The short form that a restart's status carries. -/
def reason : Fault → String
  | spawn program cause => s!"failed to spawn `{program}`: {cause.message}"
  | notReady ms => s!"worker not ready within {ms}ms"
  | exited (some code) => s!"worker exited with code {code}"
  | exited none => "worker terminated by signal"
  | signal pid message => s!"failed to signal worker {pid}: {message}"

end Fault

end DevServer.Worker
