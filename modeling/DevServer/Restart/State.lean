import DevServer.Restart.Happening

/-!
# The state of a dev loop

Restarts and shutdowns take turns at the one worker slot: `line` holds their claims in the order they
came, and the claim at its head holds the slot. Whoever waits (for a restart, for a client build to
settle, for build events) is a task with a stage.
-/

namespace DevServer.Restart

/-- A claim on the slot and, at the head of the line, what its owner is doing. -/
inductive Claim where
  | enters (owner : Owner)
  /-- A call to stop a worker is in progress and returns at `due`. -/
  | stops (owner : Owner) (worker due : Nat) (fault : Option Worker.Fault)
  /-- A call to start a worker is in progress and returns at `due`. -/
  | starts (ticket due : Nat) (outcome : StartOutcome)
  deriving DecidableEq, Repr

def Claim.owner : Claim → Owner
  | enters owner | stops owner _ _ _ => owner
  | starts ticket _ _ => .restart ticket

inductive Errand where
  | restartWorker
  /-- A client build has succeeded: wait until it may be announced. -/
  | releaseClient (settleMs : Nat)
  | handle (event : Build.Event) (settleMs : Nat)
  /-- Takes events from a channel and starts a task for each. -/
  | receive (settleMs : Nat)
  | shutdown
  deriving DecidableEq, Repr

inductive Stage where
  | fresh
  | waiting (ticket : Nat)
  /-- The restart has ended, and the client build settles until `due`. -/
  | settling (due : Nat) (outcome : Outcome)
  /-- Events that have been accepted, and whether more can come. -/
  | receiving (events : List Build.Event) (isOpen : Bool)
  | claiming
  | ended (result : Result)
  | cancelled
  deriving DecidableEq, Repr

def Stage.isOver : Stage → Bool
  | ended _ | cancelled => true
  | fresh | waiting _ | settling _ _ | receiving _ _ | claiming => false

structure Task where
  errand : Errand
  stage : Stage
  /-- The number that its caller knows it by; a task for a received event has none. -/
  number : Option Nat
  deriving DecidableEq, Repr

structure State where
  now : Nat
  tracker : Tracker
  shutDown : Bool
  /-- Whether a change of server components waits to be announced. -/
  changed : Bool
  slot : Option Nat
  alive : List Nat
  workers : Nat
  startCalls : Nat
  stopCalls : Nat
  /-- The restarts that have not claimed the slot yet. -/
  unclaimed : List Nat
  line : List Claim
  tasks : List Task
  inbox : Option Nat
  history : History
  deriving Repr

namespace State

def new : State where
  now := 0
  tracker := .new
  shutDown := false
  changed := false
  slot := none
  alive := []
  workers := 0
  startCalls := 0
  stopCalls := 0
  unclaimed := []
  line := []
  tasks := []
  inbox := none
  history := []

def note (s : State) (h : Happening) : State := { s with history := s.history ++ [(s.now, h)] }

def setStage (s : State) (task : Nat) (stage : Stage) : State :=
  { s with tasks := s.tasks.modify task ({ · with stage }) }

def stage? (s : State) (task : Nat) : Option Stage := (s.tasks[task]?).map Task.stage

def endTask (s : State) (task : Nat) (result : Result) : State :=
  (s.setStage task (.ended result)).note (.taskEnded task result)

def request (s : State) : State :=
  let joined := s.tracker.queued.isSome
  let ticket := s.tracker.ticket
  { s with
    tracker := s.tracker.request
    unclaimed := if joined then s.unclaimed else s.unclaimed ++ [ticket] }.note
      (.requested ticket joined)

/-- Whether the worker in the slot serves; nobody may be busy with the slot. -/
def workerRunning (s : State) : Bool := s.line.isEmpty && s.slot.any s.alive.contains

def numbered (s : State) : Nat := s.tasks.countP (·.number.isSome)

def taskOf? (s : State) (number : Nat) : Option Nat :=
  s.tasks.findIdx? (·.number == some number)

end State

end DevServer.Restart
