import DevServer.Restart.State

/-!
# Steps of a dev loop

`step` gives the state after one action, or `none` when the action cannot happen. Some actions come
from outside (requests, builds, cancellations, the passing of time); the others let a task, a restart
or the owner of the slot go on to where it next has to wait. Any sequence of actions that can happen
is a run, whatever the order in which tasks go on.
-/

namespace DevServer.Restart

inductive Action where
  /-- Someone asks for a restart and does not wait. -/
  | request
  | spawn (errand : Errand)
  /-- An event is offered to the channel. -/
  | send (event : Build.Event)
  /-- The sending end of the channel goes. -/
  | close
  | cancel (task : Nat)
  | mark
  | unmark
  /-- The worker started last dies by itself. -/
  | killWorker
  | pass (ms : Nat)
  /-- A restart claims the slot. -/
  | claim (ticket : Nat)
  /-- A task goes on. -/
  | poll (task : Nat)
  /-- The owner of the slot goes on. -/
  | turn
  deriving DecidableEq, Repr

namespace State

/-- The head of the line goes on as `c`. -/
def setHead (s : State) (c : Claim) : State := { s with line := c :: s.line.tail }

/-- The head of the line gives up the slot. -/
def leave (s : State) : State := { s with line := s.line.tail }

def conclude (s : State) (ticket : Nat) (c : Conclusion) : State :=
  { s with tracker := s.tracker.finish ticket c.outcome }.leave.note (.ended ticket c)

/-- The worker leaves the slot and is stopped; a worker that is dead already takes no time. -/
def callStop (script : Script) (s : State) (owner : Owner) (worker : Nat) : State :=
  let stop := script.stop s.stopCalls
  let due := if s.alive.contains worker then s.now + stop.ms else s.now
  let s := { s with
    slot := none
    alive := s.alive.filter (· != worker)
    stopCalls := s.stopCalls + 1 }
  (s.setHead (.stops owner worker due stop.fault)).note (.stopCalled owner worker)

def callStart (script : Script) (s : State) (ticket : Nat) : State :=
  let start := script.start s.startCalls
  let s := { s with startCalls := s.startCalls + 1 }
  (s.setHead (.starts ticket (s.now + start.ms) start.outcome)).note (.startCalled ticket)

/-- A restart gets the slot: it stops the worker that is there, or goes on to start one. -/
def beginRestart (script : Script) (s : State) (ticket : Nat) : State :=
  let s := { s with tracker := s.tracker.begin ticket }.note (.began ticket s.shutDown)
  if s.shutDown then s.conclude ticket .skipped
  else match s.slot with
    | some worker => s.callStop script (.restart ticket) worker
    | none => s.callStart script ticket

/-- A new worker takes the slot, and a change that waits is announced. -/
def installWorker (s : State) (ticket : Nat) : State :=
  let worker := s.workers + 1
  let s := { s with workers := worker, alive := worker :: s.alive, slot := some worker }
  let s := if s.changed then { s with changed := false }.note (.published .serverUpdate) else s
  s.conclude ticket .succeeded

def startReturned (s : State) (ticket : Nat) (outcome : StartOutcome) : State :=
  let s := s.note (.startReturned ticket outcome)
  match outcome with
  | .ready => s.installWorker ticket
  | .dead => { s with workers := s.workers + 1 }.conclude ticket (.failed (.exited none))
  | .fault f => s.conclude ticket (.failed f)
  | .panic =>
    { s with tracker := s.tracker.abandon ticket }.leave.note (.abandoned ticket)

/-- The owner of the slot goes on, if it has not to wait. -/
def turn (script : Script) (s : State) : Option State :=
  match s.line with
  | [] => none
  | .enters (.restart ticket) :: _ => some (s.beginRestart script ticket)
  | .enters (.shutdown task) :: _ =>
    match s.slot with
    | some worker => some (s.callStop script (.shutdown task) worker)
    | none => some (s.leave.endTask task .shutDown)
  | .stops owner worker due fault :: _ =>
    if due ≤ s.now then
      let s := s.note (.stopReturned owner worker fault)
      match owner with
      | .restart ticket => some (s.callStart script ticket)
      | .shutdown task => some (s.leave.endTask task .shutDown)
    else none
  | .starts ticket due outcome :: _ =>
    if due ≤ s.now then some (s.startReturned ticket outcome) else none

/-- A client build waits for the restart in flight; if there is none, `ready` says how it goes on. -/
def gateClient (s : State) (task : Nat) (ready : State → State) : State :=
  match s.tracker.inFlight? with
  | some ticket => (s.note (.clientWaits ticket)).setStage task (.waiting ticket)
  | none => ready s

/-- The announcement of a client build ends its task. -/
def announceClient (s : State) (task : Nat) (e : Build.Event) : State :=
  (s.note (.published (.clientBuilt e.build))).endTask task .handled

def handleFresh (s : State) (task : Nat) (e : Build.Event) : State :=
  if !e.success then (s.note (.buildFailed e.target e.build)).endTask task .handled
  else match e.target with
    | .server =>
      let s := if e.touchedServer then { s with changed := true }.note .marked else s
      let s := s.note (.serverBuilt e.build)
      s.request.setStage task (.waiting s.tracker.ticket)
    | .client => s.gateClient task (·.announceClient task e)

def startTask (s : State) (task : Nat) : Errand → State
  | .restartWorker => s.request.setStage task (.waiting s.tracker.ticket)
  | .releaseClient _ => s.gateClient task (·.endTask task .immediate)
  | .handle e _ => s.handleFresh task e
  | .receive _ => s
  | .shutdown =>
    let s := { s with shutDown := true, line := s.line ++ [Claim.enters (.shutdown task)] }
    (s.note .shutdownCalled).setStage task .claiming

/-- A client build learns how the restart it waited for ended, and settles. -/
def settleClient (s : State) (task ticket settleMs : Nat) (o : Outcome) : State :=
  let s := match o with
    | .failed reason => s.note (.clientWaitFailed ticket reason)
    | .succeeded => s
  s.setStage task (.settling (s.now + settleMs) o)

def restartSettled (s : State) (task ticket : Nat) (o : Outcome) : Errand → Option State
  | .restartWorker => some (s.endTask task (.restarted o))
  | .releaseClient settleMs => some (s.settleClient task ticket settleMs o)
  | .handle e settleMs =>
    match e.target with
    | .client => some (s.settleClient task ticket settleMs o)
    | .server =>
      let s := match o with
        | .failed reason => s.note (.serverBuildLost e.build reason)
        | .succeeded => s
      some (s.endTask task .handled)
  | .receive _ | .shutdown => none

def clientSettled (s : State) (task : Nat) (o : Outcome) : Errand → Option State
  | .releaseClient _ => some (s.endTask task (.afterRestart o))
  | .handle e _ => some ((s.note (.clientSettled e.build)).announceClient task e)
  | .restartWorker | .receive _ | .shutdown => none

/-- A loop takes its next event, and gives it a task of its own. -/
def receive (s : State) (task settleMs : Nat) (isOpen : Bool) : List Build.Event → Option State
  | e :: es =>
    let s := s.setStage task (.receiving es isOpen)
    some { s with tasks := s.tasks ++ [⟨.handle e settleMs, .fresh, none⟩] }
  | [] => if isOpen then none else some ((s.note .loopFinished).endTask task .finished)

/-- A task goes on, if it has not to wait. -/
def poll (s : State) (task : Nat) : Option State := do
  let t ← s.tasks[task]?
  match t.stage with
  | .fresh => return s.startTask task t.errand
  | .waiting ticket => s.restartSettled task ticket (← s.tracker.settled? ticket) t.errand
  | .settling due o => if due ≤ s.now then s.clientSettled task o t.errand else none
  | .receiving events isOpen =>
    match t.errand with
    | .receive settleMs => s.receive task settleMs isOpen events
    | _ => none
  | .claiming | .ended _ | .cancelled => none

def claim (s : State) (ticket : Nat) : Option State :=
  if ticket ∈ s.unclaimed then
    some { s with
      unclaimed := s.unclaimed.filter (· != ticket)
      line := s.line ++ [Claim.enters (.restart ticket)] }
  else none

def accepts (s : State) : Bool :=
  match s.inbox.bind s.stage? with
  | some (.receiving _ isOpen) => isOpen
  | _ => false

/-- An event enters the channel, if that takes it. -/
def send (s : State) (e : Build.Event) : State :=
  match s.inbox, s.inbox.bind s.stage? with
  | some task, some (.receiving es true) => s.setStage task (.receiving (es ++ [e]) true)
  | _, _ => s

def close (s : State) : State :=
  match s.inbox, s.inbox.bind s.stage? with
  | some task, some (.receiving es true) =>
    { s.setStage task (.receiving es false) with inbox := none }
  | _, _ => { s with inbox := none }

/-- A new task; one that receives events takes over the channel. -/
def spawn (s : State) (errand : Errand) : State :=
  match errand with
  | .receive _ =>
    let t : Task := ⟨errand, .receiving [] true, some s.numbered⟩
    { s.close with tasks := s.close.tasks ++ [t], inbox := some s.tasks.length }
  | _ => { s with tasks := s.tasks ++ [⟨errand, .fresh, some s.numbered⟩] }

/-- A task is given up where it stands; its claim on the slot goes with it. -/
def cancel (s : State) (task : Nat) : State :=
  match s.stage? task with
  | some stage =>
    if stage.isOver then s
    else
      { s with line := s.line.filter (·.owner != Owner.shutdown task) }.setStage task .cancelled
  | none => s

/-- The worker started last dies by itself. -/
def killWorker (s : State) : State :=
  if s.alive.contains s.workers then
    { s with alive := s.alive.filter (· != s.workers) }.note (.workerDied s.workers)
  else s

end State

/-- The state after one action, if it can happen. -/
def step (script : Script) (s : State) : Action → Option State
  | .request => some s.request
  | .spawn errand => some (s.spawn errand)
  | .send e => some (s.send e)
  | .close => some s.close
  | .cancel task => some (s.cancel task)
  | .mark => some ({ s with changed := true }.note .marked)
  | .unmark => some ({ s with changed := false }.note .unmarked)
  | .killWorker => some s.killWorker
  | .pass ms => some { s with now := s.now + ms }
  | .claim ticket => s.claim ticket
  | .poll task => s.poll task
  | .turn => s.turn script

/-- The states that some run leads to. -/
inductive Reachable (script : Script) : State → Prop where
  | new : Reachable script .new
  | step {s s' : State} {a : Action} : Reachable script s → step script s a = some s' →
      Reachable script s'

end DevServer.Restart
