/-!
# The change gate

A flag that is set when a server build changed what the server renders, and taken by the restart
that announces the change. Several handles can share one flag.
-/

namespace DevServer.Restart

/-- Flags and the handles on them: each handle names its flag. -/
structure ChangeGates where
  flags : List Bool
  handles : List Nat
  deriving DecidableEq, Repr

namespace ChangeGates

def new : ChangeGates := ⟨[false], [0]⟩

def flagOf (g : ChangeGates) (handle : Nat) : Nat := g.handles.getD handle g.flags.length

def isPending (g : ChangeGates) (handle : Nat) : Bool := g.flags.getD (g.flagOf handle) false

def mark (g : ChangeGates) (handle : Nat) : ChangeGates :=
  { g with flags := g.flags.set (g.flagOf handle) true }

def take (g : ChangeGates) (handle : Nat) : ChangeGates :=
  { g with flags := g.flags.set (g.flagOf handle) false }

def share (g : ChangeGates) (handle : Nat) : ChangeGates :=
  { g with handles := g.handles ++ [g.flagOf handle] }

/-- A further flag with a handle of its own. -/
def add (g : ChangeGates) : ChangeGates :=
  ⟨g.flags ++ [false], g.handles ++ [g.flags.length]⟩

def pendings (g : ChangeGates) : List Bool := (List.range g.handles.length).map g.isPending

end ChangeGates

end DevServer.Restart
