import DevServer.Path

/-!
# File changes

A watcher reports events that name several paths; some kinds of event are changes of files.
-/

namespace DevServer

inductive ChangeKind where
  | created
  | modified
  | removed
  deriving DecidableEq, Repr

def ChangeKind.name : ChangeKind → String
  | created => "created"
  | modified => "modified"
  | removed => "removed"

/-- A path with what happened to it. -/
structure Change where
  path : Path
  kind : ChangeKind
  deriving DecidableEq, Repr

/-- What part of a file an event modified. -/
inductive Aspect where
  | unspecified
  | data
  | metadata
  | name
  | other
  deriving DecidableEq, Repr

/-- What a watcher saw. -/
inductive EventKind where
  | unspecified
  | access
  | create
  | modify (aspect : Aspect)
  | remove
  | other
  deriving DecidableEq, Repr

/-- The change that an event of this kind is; touching metadata only is none. -/
def EventKind.change? : EventKind → Option ChangeKind
  | create => some .created
  | modify .metadata => none
  | modify _ => some .modified
  | remove => some .removed
  | unspecified | access | other => none

structure FileEvent where
  kind : EventKind
  paths : List Path
  deriving DecidableEq, Repr

end DevServer
