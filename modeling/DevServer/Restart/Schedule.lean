import DevServer.Restart.Step

/-!
# Schedules

A prompt run of a dev loop: whatever can go on does so before the clock moves, and the clock moves
from one deadline to the next. `rest` lets everything go on; `wait`, `awaitTicket` and `drain` move
the clock. Each kind of pending work has a weight that bounds how many steps it can still take, so
`State.work` bounds the steps to rest.
-/

namespace DevServer.Restart

def Claim.work : Claim → Nat
  | enters _ => 3
  | stops _ _ _ _ => 2
  | starts _ _ _ => 1

def Stage.work : Stage → Nat
  | fresh => 7
  | waiting _ => 2
  | settling _ _ => 1
  | receiving events isOpen => 8 * events.length + (if isOpen then 0 else 1)
  | claiming | ended _ | cancelled => 0

namespace State

/-- How many steps are left while nothing comes from outside. -/
def work (s : State) : Nat :=
  s.tasks.foldr (·.stage.work + ·) 0 + 4 * s.unclaimed.length + s.line.foldr (·.work + ·) 0

def moves (s : State) : List Action :=
  (List.range s.tasks.length).map .poll ++ s.unclaimed.map .claim ++ [.turn]

/-- The first action from within that can happen. -/
def move? (script : Script) (s : State) : Option State := s.moves.findSome? (step script s)

/-- At most `n` actions from within. -/
def moveTimes (script : Script) : (n : Nat) → State → State
  | 0, s => s
  | n + 1, s =>
    match s.move? script with
    | some s => moveTimes script n s
    | none => s

/-- Everything that can go on has done so. -/
def rest (script : Script) (s : State) : State := s.moveTimes script s.work

/-- Actions from outside with nothing in between, and then rest. -/
def perform (script : Script) (s : State) (actions : List Action) : State :=
  (actions.foldl (fun s a => (step script s a).getD s) s).rest script

def deadlines (s : State) : List Nat :=
  s.tasks.filterMap (fun t =>
    match t.stage with
    | .settling due _ => some due
    | _ => none) ++
  match s.line with
  | .stops _ _ due _ :: _ | .starts _ due _ :: _ => [due]
  | _ => []

def nextDeadline? (s : State) : Option Nat := (s.deadlines.filter (s.now < ·)).min?

def moveClock (script : Script) (s : State) (time : Nat) : State :=
  s.perform script [.pass (time - s.now)]

/-- The clock moves to `time`, by way of the deadlines before it, at most `n` of them. -/
def clockTo (script : Script) (time : Nat) : (n : Nat) → State → State
  | 0, s => s.moveClock script time
  | n + 1, s =>
    match s.nextDeadline? with
    | some due =>
      if due ≤ time then clockTo script time n (s.moveClock script due)
      else s.moveClock script time
    | none => s.moveClock script time

def wait (script : Script) (s : State) (ms : Nat) : State :=
  s.clockTo script (s.now + ms) s.work

/-- The clock moves from deadline to deadline until `done`, at most `n` of them. -/
def clockUntil (script : Script) (done : State → Bool) : (n : Nat) → State → State
  | 0, s => s
  | n + 1, s =>
    if done s then s
    else match s.nextDeadline? with
      | some due => clockUntil script done n (s.moveClock script due)
      | none => s

def awaitTicket (script : Script) (s : State) (ticket : Nat) : State :=
  s.clockUntil script (·.tracker.settled? ticket |>.isSome) s.work

def drain (script : Script) (s : State) : State :=
  s.clockUntil script (·.tasks.all fun t => t.number.isNone || t.stage.isOver) s.work

end State

structure Snapshot where
  restarts : Nat
  last : Option Status
  running : Bool
  deriving DecidableEq, Repr

def State.snapshot (s : State) : Snapshot := ⟨s.tracker.started, s.tracker.last, s.workerRunning⟩

end DevServer.Restart
