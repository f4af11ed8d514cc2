import DevServer.Worker.Monitor

/-!
# The life of a worker

A worker lives between its monitor and those who hold it: the call that starts it, which waits until
the worker is ready, has exited or takes too long, and the owner of its handle, who can stop it or
drop the handle. Until the call returns, the handle is the call's own, and giving up the call drops
the handle.
-/

namespace DevServer.Worker

inductive Attempt where
  | waiting
  /-- It took too long, and the worker is being stopped. -/
  | overdue
  | started
  | failed (fault : Fault)
  deriving DecidableEq, Repr

def Attempt.isFailed : Attempt → Bool
  | failed _ => true
  | waiting | overdue | started => false

structure Life where
  monitor : Monitor
  attempt : Attempt
  stopAsked : Bool
  dropped : Bool
  deriving DecidableEq, Repr

inductive Move where
  | turn (output : Option Process.Reading) (exit : Option (Option Int))
  /-- The starting call looks whether it can return; `expired` says that its time is over. -/
  | look (expired : Bool)
  | stop
  /-- The handle is dropped, by its owner or with the starting call. -/
  | drop
  deriving DecidableEq, Repr

namespace Life

def new : Life := ⟨.new, .waiting, false, false⟩

/-- Asks for a stop; a worker that is dead needs none. -/
def askStop (l : Life) : Life := if l.monitor.phase.isDead then l else { l with stopAsked := true }

def offer (l : Life) (output : Option Process.Reading) (exit : Option (Option Int)) : Offer :=
  ⟨output, exit, l.stopAsked || l.dropped⟩

/-- The starting call: readiness counts even if the worker has exited since. -/
def look (l : Life) (timeoutMs : Nat) (expired : Bool) : Life :=
  match l.attempt with
  | .started | .failed _ => l
  | .waiting =>
    if 0 < l.monitor.signals then { l with attempt := .started }
    else match l.monitor.phase with
      | .dead code => { l with attempt := .failed (.exited code) }
      | .starting | .ready | .terminating =>
        if expired then { l.askStop with attempt := .overdue } else l
  | .overdue => if l.monitor.phase.isDead then { l with attempt := .failed (.notReady timeoutMs) } else l

/-- There is a handle from the beginning, until it is dropped or the call fails. -/
def hasHandle (l : Life) : Bool := !l.attempt.isFailed && !l.dropped

def isHeld (l : Life) : Bool := l.attempt == .started && !l.dropped

def move (timeoutMs : Nat) (l : Life) : Move → Option Life
  | .turn output exit => (l.monitor.turn (l.offer output exit)).map fun monitor => { l with monitor }
  | .look expired => if l.dropped then none else some (l.look timeoutMs expired)
  | .stop => if l.isHeld then some l.askStop else none
  | .drop => if l.hasHandle then some { l with dropped := true } else none

inductive Reachable (timeoutMs : Nat) : Life → Prop where
  | new : Reachable timeoutMs .new
  | move {l l' : Life} (m : Move) : Reachable timeoutMs l → l.move timeoutMs m = some l' →
      Reachable timeoutMs l'

/-- What the owner of a handle learns of an exit: one that was asked for is no fault. -/
def exitFault? (l : Life) : Option Fault :=
  match l.monitor.phase with
  | .dead (some 0) => none
  | .dead code => if l.stopAsked then none else some (.exited code)
  | .starting | .ready | .terminating => some (.exited none)

end Life

end DevServer.Worker
