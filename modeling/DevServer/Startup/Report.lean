import DevServer.Startup.Fault
import DevServer.Text.Quoted

/-!
# How a failed start is reported

A fault is shown as a record with its fields; the place that raised it is one of them.
-/

namespace DevServer

open Text (quoted)

/-- A name with fields in braces. -/
def record (name : String) (fields : List (String × String)) : String :=
  name ++ " \x7b " ++ ", ".intercalate (fields.map fun (k, v) => s!"{k}: {v}") ++ " \x7d"

namespace Failure

def Location.field (l : Location) : String × String :=
  ("location", record "ErrorLocation"
    [("file", quoted l.file), ("line", toString l.line), ("column", toString l.column)])

def Cause.shown (c : Cause) : String :=
  match c with
  | .errno n =>
    record "Os" [("code", toString n), ("kind", c.kind), ("message", quoted (Cause.systemText n))]
  | .notText | .zeroByte | .other _ => record "Error" [("kind", c.kind), ("message", quoted c.message)]

end Failure

open Failure (Location)

def Settings.Fault.shown (f : Settings.Fault) (at_ : Location) : String :=
  match f with
  | refused category message =>
    record "Generic"
      [("category", quoted category.name), ("message", quoted message), at_.field]
  | unreadable path cause => record "Io" [("path", quoted path.display), ("source", cause.shown)]
  | malformed path => record "Toml" [("path", quoted path.display)]

def Build.Target.title : Build.Target → String
  | client => "Client"
  | server => "Server"

def Build.Fault.shown (f : Build.Fault) (at_ : Location) : String :=
  match f with
  | noCommand target => record "EmptyCommand" [("target", target.title), at_.field]
  | watch path cause =>
    record "Watch" [("path", quoted path.display), ("source", cause.shown), at_.field]
  | spawn program cause =>
    record "CommandSpawn" [("program", quoted program), ("source", cause.shown), at_.field]

def Startup.Fault.shown (f : Startup.Fault) (at_ : Location) : String :=
  match f with
  | settings fault => fault.shown at_
  | build fault => fault.shown at_
  | logger message => record "Logger" [("message", quoted message)]
  | system cause => cause.shown

end DevServer
