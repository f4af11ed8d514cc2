import DevServer.Failure.Cause
import DevServer.Failure.Location
import DevServer.Path

/-!
# What can go wrong with settings
-/

namespace DevServer.Settings

open Failure

/-- The part of the settings that a refusal is about. -/
inductive Category where
  | config
  | server
  | worker
  | reload
  | build
  deriving DecidableEq, Repr

def Category.name : Category → String
  | config => "Config"
  | server => "Server"
  | worker => "Worker"
  | reload => "Reload"
  | build => "Build"

inductive Fault where
  /-- A value is refused, or something needed is not there. -/
  | refused (category : Category) (message : String)
  | unreadable (path : Path) (cause : Cause)
  /-- The text of the file breaks the rules of TOML or gives a key a value of another type. -/
  | malformed (path : Path)
  deriving DecidableEq, Repr

namespace Fault

/-- The text of a fault that is no malformed file, with the place that refused a value. -/
def text? (f : Fault) (at_ : Location) : Option String :=
  match f with
  | refused category message => some (located s!"{category.name} error: {message}" at_)
  | unreadable path cause => some s!"IO error reading {path.display}: {cause.message}"
  | malformed _ => none

def category? : Fault → Option Category
  | refused category _ => some category
  | unreadable _ _ | malformed _ => none

end Fault

end DevServer.Settings
