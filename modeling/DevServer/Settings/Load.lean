import DevServer.Settings.Decode
import DevServer.Settings.Environment
import DevServer.Settings.Fault
import DevServer.Toml.Document

/-!
# Loading settings

Settings come from `config.toml` in the settings directory, if it is there, and then from the
environment. Loading does not validate.
-/

namespace DevServer.Settings

open Failure

def directoryVariable : String := "DEVLOOP_CONFIG_DIR"

/-- The settings directory: the one that the environment names, or `.devloop` where the program runs. -/
def directory (env : Environment) (cwd : Option Path) : Except Fault Path :=
  match env.get? directoryVariable, cwd with
  | some dir, _ => .ok (Path.ofString dir)
  | none, some cwd => .ok (cwd.join (Path.ofString ".devloop"))
  | none, none => .error (.refused .config "Cannot determine current working directory")

def filePath (dir : Path) : Path := dir.join (Path.ofString "config.toml")

/-- The settings of a file. -/
def ofFile (path : Path) (content : Except Cause Bytes) : Except Fault Settings :=
  match content with
  | .error cause => .error (.unreadable path cause)
  | .ok bytes =>
    match Text.decode? bytes with
    | none => .error (.unreadable path .notText)
    | some text =>
      match (Toml.parse? text).bind ofFields? with
      | some s => .ok s
      | none => .error (.malformed path)

/--
The settings for a directory; `content` is what reading its file gives, `none` if there is no such
file.
-/
def load (dir : Path) (content : Option (Except Cause Bytes)) (env : Environment) :
    Except Fault Settings := do
  let s ← match content with
    | none => pure Settings.default
    | some content => ofFile (filePath dir) content
  return s.override env

end DevServer.Settings
