import DevServer.Build.Target
import DevServer.Failure.Cause
import DevServer.Failure.Location
import DevServer.Path

/-!
# What can go wrong with a build
-/

namespace DevServer.Build

open Failure

inductive Fault where
  | noCommand (target : Target)
  | watch (path : Path) (cause : Cause)
  | spawn (program : String) (cause : Cause)
  deriving DecidableEq, Repr

namespace Fault

def message : Fault → String
  | noCommand target => s!"No build command configured for the {target.name} target"
  | watch path cause => s!"Failed to watch {path.display}: {cause.message}"
  | spawn program cause => s!"Failed to run build command `{program}`: {cause.message}"

def text (f : Fault) (at_ : Location) : String := located f.message at_

end Fault

end DevServer.Build
