import DevServer.Log.Line

/-!
# The shutdown signal

A signal is raised once and stays raised. Coordinators raise it and hand out guards; a guard waits
until the signal is raised or no coordinator is left.
-/

namespace DevServer

structure Shutdown where
  raised : Bool
  coordinators : List Bool
  guards : Nat
  deriving DecidableEq, Repr

namespace Shutdown

def new : Shutdown := ⟨false, [true], 0⟩

def isHeld (s : Shutdown) (coordinator : Nat) : Bool := s.coordinators.getD coordinator false

/-- Whether the signal is raised, as a coordinator that is held sees it. -/
def seenBy (s : Shutdown) (coordinator : Nat) : Option Bool :=
  if s.isHeld coordinator then some s.raised else none

def raise (s : Shutdown) : Shutdown := { s with raised := true }

def share (s : Shutdown) : Shutdown := { s with coordinators := s.coordinators ++ [true] }

def drop (s : Shutdown) (coordinator : Nat) : Shutdown :=
  { s with coordinators := s.coordinators.set coordinator false }

def guard (s : Shutdown) : Shutdown := { s with guards := s.guards + 1 }

/-- Whether a guard has nothing to wait for. -/
def isOver (s : Shutdown) : Bool := s.raised || !s.coordinators.any id

def raiseLine : Log.Line := .info "Shutdown signal received, notifying all subsystems"

end Shutdown

end DevServer
