import DevServer.Build.Event
import DevServer.Log.Line
import DevServer.Reload.Event
import DevServer.Restart.Script
import DevServer.Restart.Tracker

/-!
# What happens in a dev loop

The history of a dev loop is a list of happenings with their times. Its log, the calls that start and
stop workers and the events that browsers are told are read off it.
-/

namespace DevServer.Restart

/-- Who holds the worker slot or waits for it. -/
inductive Owner where
  | restart (ticket : Nat)
  | shutdown (task : Nat)
  deriving DecidableEq, Repr

/-- How a restart's task came to its end. -/
inductive Conclusion where
  | succeeded
  | failed (fault : Worker.Fault)
  /-- The coordinator had been shut down before the restart began. -/
  | skipped
  deriving DecidableEq, Repr

def Conclusion.outcome : Conclusion → Outcome
  | succeeded => .succeeded
  | failed fault => .failed fault.reason
  | skipped => .failed "coordinator shut down"

/-- What a finished task has to say. -/
inductive Result where
  /-- The restart that a server build waited for ended. -/
  | restarted (outcome : Outcome)
  /-- A client build did not have to wait. -/
  | immediate
  /-- A client build waited for a restart. -/
  | afterRestart (outcome : Outcome)
  | handled
  | finished
  | shutDown
  deriving DecidableEq, Repr

inductive Happening where
  | requested (ticket : Nat) (joined : Bool)
  | began (ticket : Nat) (skipped : Bool)
  | stopCalled (owner : Owner) (worker : Nat)
  | stopReturned (owner : Owner) (worker : Nat) (fault : Option Worker.Fault)
  | startCalled (ticket : Nat)
  | startReturned (ticket : Nat) (outcome : StartOutcome)
  | ended (ticket : Nat) (conclusion : Conclusion)
  | abandoned (ticket : Nat)
  | marked
  | unmarked
  | published (event : Reload.Event)
  | buildFailed (target : Build.Target) (build : Nat)
  | serverBuilt (build : Nat)
  | serverBuildLost (build : Nat) (reason : String)
  | clientWaits (ticket : Nat)
  | clientWaitFailed (ticket : Nat) (reason : String)
  | clientSettled (build : Nat)
  | loopFinished
  | shutdownCalled
  | workerDied (worker : Nat)
  | taskEnded (task : Nat) (result : Result)
  deriving DecidableEq, Repr

namespace Happening

/-- The line that a happening logs. -/
def line? : Happening → Option Log.Line
  | requested ticket true => some (.info s!"Restart #{ticket} already queued, joining it")
  | began ticket false => some (.info s!"Restart #{ticket} started")
  | stopCalled (.shutdown _) _ => some (.info "Stopping worker for shutdown")
  | stopReturned (.restart _) _ (some f) =>
    some (.warn s!"Failed to stop previous worker cleanly: {f.message}")
  | stopReturned (.shutdown _) _ (some f) =>
    some (.warn s!"Failed to stop worker during shutdown: {f.message}")
  | ended ticket .succeeded => some (.info s!"Restart #{ticket} succeeded")
  | ended ticket (.failed f) => some (.error s!"Restart #{ticket} failed: {f.message}")
  | ended ticket .skipped =>
    some (.warn s!"Restart #{ticket} skipped, coordinator is shut down")
  | published .serverUpdate => some (.info "Server components changed, publishing reload")
  | published (.clientBuilt build) => some (.info s!"client build #{build} ready")
  | buildFailed target build =>
    some (.warn s!"{target.name} build #{build} failed, waiting for the next change")
  | serverBuilt build => some (.info s!"server build #{build} succeeded, restarting worker")
  | serverBuildLost build reason =>
    some (.warn s!"Worker restart after server build #{build} failed: {reason}")
  | clientWaits ticket => some (.debug s!"Client build waiting on server restart #{ticket}")
  | clientWaitFailed ticket reason =>
    some (.warn s!"Server restart #{ticket} failed ({reason}), settling client build anyway")
  | clientSettled build => some (.debug s!"client build #{build} settled after server restart")
  | loopFinished => some (.debug "All build pipelines closed, dev loop finished")
  | requested _ false | began _ true | stopCalled (.restart _) _ | stopReturned _ _ none
  | startCalled _ | startReturned _ _ | abandoned _ | marked | unmarked | shutdownCalled
  | workerDied _ | taskEnded _ _ => none

/-- The event that browsers are told. -/
def published? : Happening → Option Reload.Event
  | published e => some e
  | _ => none

end Happening

/-- Happenings with their times, oldest first. -/
abbrev History := List (Nat × Happening)

namespace History

def lines (h : History) : List Log.Line := h.filterMap (·.2.line?)

def published (h : History) : List (Nat × Reload.Event) :=
  h.filterMap fun (t, e) => e.published?.map (t, ·)

end History

end DevServer.Restart
