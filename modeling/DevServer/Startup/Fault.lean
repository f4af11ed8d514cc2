import DevServer.Build.Fault
import DevServer.Settings.Fault

/-!
# What can keep the program from starting
-/

namespace DevServer.Startup

open Failure

inductive Fault where
  | settings (fault : Settings.Fault)
  | build (fault : Build.Fault)
  | logger (message : String)
  | system (cause : Cause)
  deriving DecidableEq, Repr

/-- The text of a fault, with the place where a settings or build fault was raised. -/
def Fault.text? (f : Fault) (at_ : Location) : Option String :=
  match f with
  | settings fault => (fault.text? at_).map fun t => s!"Config error: {t}"
  | build fault => some s!"Build error: {fault.text at_}"
  | logger message => some s!"Logger error: {message}"
  | system cause => some s!"IO error: {cause.message}"

end DevServer.Startup
