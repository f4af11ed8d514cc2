import DevServer.Build.Event
import DevServer.Change.Debouncer
import DevServer.Change.ServerImpact

/-!
# Build pipelines

A pipeline builds once, and then again for every batch of changes. While it waits it looks at three
things in a fixed order: whether it is to shut down, what the watcher has reported, and whether its
timer has run out; the timer is set anew at every turn. A build that has begun is always finished.
-/

namespace DevServer.Build

inductive Activity where
  | building (build : Nat) (changes : List Change)
  /-- It waits, with a timer that runs out at a time. -/
  | waiting (timer : Nat)
  | stopped
  deriving DecidableEq, Repr

structure Pipeline where
  target : Target
  debouncer : Debouncer
  /-- What the watcher has reported and the debouncer has not recorded yet. -/
  queue : List FileEvent
  activity : Activity
  /-- The number of the last build that has begun. -/
  builds : Nat
  sent : List Event
  shuttingDown : Bool
  listening : Bool
  deriving Repr

/-- How a build ends. A command that cannot be started is a failed build. -/
structure Outcome where
  success : Bool
  /-- The texts of the files at the end of the build. -/
  read : Path → Option String
  time : Instant

inductive Move where
  | report (e : FileEvent)
  | turn
  | finish (o : Outcome)
  | shutDown
  | hangUp

namespace Pipeline

/-- The pipeline of a target with its first build begun; the window is in microseconds. -/
def new (target : Target) (window : Nat) : Pipeline where
  target
  debouncer := .new window
  queue := []
  activity := .building 1 []
  builds := 1
  sent := []
  shuttingDown := false
  listening := true

def isStopped (p : Pipeline) : Bool := p.activity == .stopped

def rest (p : Pipeline) (now : Nat) : Pipeline :=
  { p with activity := .waiting (now + p.debouncer.wait now) }

/-- One turn of a pipeline that waits, if there is something to do. -/
def turn (p : Pipeline) (now : Nat) : Option Pipeline :=
  match p.activity with
  | .building _ _ | .stopped => none
  | .waiting timer =>
    if p.shuttingDown then some { p with activity := .stopped }
    else match p.queue with
      | e :: queue => some ({ p with queue, debouncer := p.debouncer.record now e }.rest now)
      | [] =>
        if now < timer then none
        else match p.debouncer.take? now with
          | none => some (p.rest now)
          | some (changes, debouncer) =>
            some { p with
              debouncer
              activity := .building (p.builds + 1) changes
              builds := p.builds + 1 }

def event (p : Pipeline) (build : Nat) (changes : List Change) (o : Outcome) : Event where
  target := p.target
  success := o.success
  build
  time := o.time
  changed := changes.map Change.path
  touchedServer := touchesServer o.read changes

/-- The build that is being done ends; without a listener the pipeline ends too. -/
def finish (p : Pipeline) (now : Nat) (o : Outcome) : Option Pipeline :=
  match p.activity with
  | .building build changes =>
    if p.listening then some ({ p with sent := p.sent ++ [p.event build changes o] }.rest now)
    else some { p with activity := .stopped }
  | .waiting _ | .stopped => none

def move (p : Pipeline) (now : Nat) : Move → Option Pipeline
  | .report e => some { p with queue := p.queue ++ [e] }
  | .turn => p.turn now
  | .finish o => p.finish now o
  | .shutDown => some { p with shuttingDown := true }
  | .hangUp => some { p with listening := false }

inductive Reachable (target : Target) (window : Nat) : Nat → Pipeline → Prop where
  | new (now : Nat) : Reachable target window now (.new target window)
  | move {now later : Nat} {p p' : Pipeline} (m : Move) : Reachable target window now p →
      now ≤ later → p.move later m = some p' → Reachable target window later p'

end Pipeline

end DevServer.Build
