import DevServer.Log.Line
import DevServer.Process.Reading
import DevServer.Worker.Fault
import DevServer.Worker.Handshake

/-!
# Monitors

A monitor owns the process of a worker. At each turn it takes one of what it is offered: output goes
before the exit of the process, and that before a wish to stop it. Once it has begun to stop the
process, only its exit counts.
-/

namespace DevServer.Worker

open Process (Reading)

inductive Phase where
  | starting
  | ready
  | terminating
  /-- The process has exited, with a code unless a signal ended it. -/
  | dead (code : Option Int)
  deriving DecidableEq, Repr

namespace Phase

def isDead : Phase → Bool
  | dead _ => true
  | starting | ready | terminating => false

/-- Phases are passed through in this order. -/
def rank : Phase → Nat
  | starting => 0
  | ready => 1
  | terminating => 2
  | dead _ => 3

end Phase

structure Monitor where
  phase : Phase
  reading : Bool
  /-- How often readiness has been signalled. -/
  signals : Nat
  deriving DecidableEq, Repr

structure Offer where
  output : Option Reading
  /-- The code, once the process has exited. -/
  exit : Option (Option Int)
  /-- Whether somebody wants the process to be stopped. -/
  stop : Bool
  deriving DecidableEq, Repr

inductive Input where
  | output (r : Reading)
  | exit (code : Option Int)
  | stop
  deriving DecidableEq, Repr

namespace Monitor

def new : Monitor := ⟨.starting, true, 0⟩

/-- What the monitor takes of an offer, if anything. -/
def choose (m : Monitor) (o : Offer) : Option Input :=
  match m.phase with
  | .dead _ => none
  | .terminating => o.exit.map .exit
  | .starting | .ready =>
    match if m.reading then o.output else none with
    | some r => some (.output r)
    | none =>
      match o.exit with
      | some code => some (.exit code)
      | none => if o.stop then some .stop else none

/-- The first ready message is the one that counts. -/
def takeLine (m : Monitor) (text : String) : Monitor :=
  match Message.ofLine? text with
  | some .ready =>
    if m.phase = .starting then { m with phase := .ready, signals := m.signals + 1 } else m
  | none => m

def take (m : Monitor) : Input → Monitor
  | .output (.line text) => m.takeLine text
  | .output (.fault _) | .output .ended => { m with reading := false }
  | .exit code => { m with phase := .dead code }
  | .stop => { m with phase := .terminating }

def turn (m : Monitor) (o : Offer) : Option Monitor := (m.choose o).map m.take

/-! ### The log of a monitor -/

def exitLine (id : Nat) (phase : Phase) (code : Option Int) : Log.Line :=
  match phase, code with
  | .terminating, code => .info s!"Worker {id} stopped (code {Fault.codeText code})"
  | .ready, some 0 => .info s!"Worker {id} exited"
  | .ready, code => .error s!"Worker {id} exited abnormally (code {Fault.codeText code})"
  | .starting, code | .dead _, code => .warn s!"Worker {id} exited (code {Fault.codeText code})"

def outputText (id : Nat) (text : String) : String := s!"[worker {id}] {text}"

def lines (m : Monitor) (id : Nat) : Input → List Log.Line
  | .output (.line text) =>
    match Message.ofLine? text with
    | some .ready =>
      if m.phase = .starting then []
      else [.debug s!"Worker {id} sent a duplicate ready message, ignoring"]
    | none => [.info (outputText id text)]
  | .output (.fault message) => [.warn s!"Failed to read worker {id} stdout: {message}"]
  | .output .ended | .stop => []
  | .exit code => [exitLine id m.phase code]

end Monitor

end DevServer.Worker
