import DevServer.Worker.Fault

/-!
# Scripts for workers

How long each call that starts or stops a worker takes, and how it comes out. The n-th call follows
the n-th script; when the scripts run out the calls follow a fixed one.
-/

namespace DevServer.Restart

inductive StartOutcome where
  | ready
  /-- A worker that is not alive. -/
  | dead
  | fault (fault : Worker.Fault)
  /-- The task that made the call dies. -/
  | panic
  deriving DecidableEq, Repr

structure StartScript where
  ms : Nat
  outcome : StartOutcome
  deriving DecidableEq, Repr

structure StopScript where
  ms : Nat
  fault : Option Worker.Fault
  deriving DecidableEq, Repr

structure Script where
  starts : List StartScript
  stops : List StopScript
  deriving DecidableEq, Repr

namespace Script

def start (s : Script) (n : Nat) : StartScript := s.starts.getD n ⟨500, .ready⟩

def stop (s : Script) (n : Nat) : StopScript := s.stops.getD n ⟨50, none⟩

end Script

end DevServer.Restart
