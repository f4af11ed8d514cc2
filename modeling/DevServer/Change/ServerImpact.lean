import DevServer.Change.Basic
import DevServer.Source.ModuleKind

/-!
# Impact of changes on the server

A batch of changes touches the server when it removes a module, or when some changed module is not
a client module. A module that cannot be read as text counts as one of the server.
-/

namespace DevServer

/-- Whether one change alters what the server renders; `read` gives the text of a file. -/
def Change.touchesServer (read : Path → Option String) (c : Change) : Bool :=
  Source.isScript c.path &&
    (c.kind == .removed ||
      match read c.path with
      | some source => (Source.ModuleKind.ofSource source).affectsServerOutput
      | none => true)

def touchesServer (read : Path → Option String) (changes : List Change) : Bool :=
  changes.any (·.touchesServer read)

@[simp] theorem touchesServer_nil (read : Path → Option String) : touchesServer read [] = false :=
  rfl

theorem touchesServer_append (read : Path → Option String) (xs ys : List Change) :
    touchesServer read (xs ++ ys) = (touchesServer read xs || touchesServer read ys) :=
  List.any_append

end DevServer
