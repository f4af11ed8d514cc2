import DevServer.Process.Launch
import DevServer.Settings.Basic
import DevServer.Worker.Lifecycle

/-!
# Supervision

A supervisor launches workers, numbered from 1, and keeps their monitors supplied with what their
processes do. Whenever a process has gone a step, every monitor takes what there is for it. The clock
is that of the processes, in microseconds, and moves while somebody waits.
-/

namespace DevServer.Worker

open Process (Programs Reading System)
open Settings (Launch)
open Text (Octets)

structure Launched where
  id : Nat
  process : Nat
  /-- The number of the pipe that its output goes to. -/
  pipe : Nat
  /-- The beginning of a line whose end has not come. -/
  held : Octets
  life : Life

structure Supervisor where
  launch : Launch
  programs : Programs
  system : System
  /-- How many workers have been launched, or were to be. -/
  launched : Nat
  workers : List Launched
  /-- The numbers of those that have started. -/
  started : List Nat
  log : List Log.Line

namespace Launched

def isDead (w : Launched) : Bool := w.life.monitor.phase.isDead

/-- A worker after a move of its life, where that can be made. -/
def move (w : Launched) (launch : Launch) (m : Move) : Launched :=
  { w with life := (w.life.move launch.readyTimeoutMs m).getD w.life }

/-- Offers one thing to the monitor, with what that logs. -/
def give (w : Launched) (launch : Launch) (i : Input) : Launched × List Log.Line :=
  let (output, exit) := match i with
    | .output r => (some r, none)
    | .exit code => (none, some code)
    | .stop => (none, none)
  let lines := ((w.life.monitor.choose (w.life.offer output exit)).map
    (w.life.monitor.lines w.id)).getD []
  (w.move launch (.turn output exit), lines)

def isReading (w : Launched) : Bool :=
  w.life.monitor.reading &&
    match w.life.monitor.phase with
    | .starting | .ready => true
    | .terminating | .dead _ => false

/-- Gives readings to the monitor as long as it takes output. -/
def read (w : Launched) (launch : Launch) : List Reading → Launched × List Log.Line
  | [] => (w, [])
  | r :: rs =>
    if w.isReading then
      let (w, lines) := w.give launch (.output r)
      let (w, more) := w.read launch rs
      (w, lines ++ more)
    else (w, [])

/-- The monitor takes all output that is there. -/
def takeOutput (w : Launched) (launch : Launch) (s : System) : Launched × List Log.Line × System :=
  if !w.isReading then (w, [], s)
  else
    let (piece, isEnd, s) := s.drain w.pipe
    if piece.isEmpty && !isEnd then (w, [], s)
    else
      let (readings, held) := Reading.ofPiece (w.held ++ piece) isEnd
      let (w, lines) := { w with held }.read launch readings
      (w, lines, s)

def lineTime : Nat := 1

/-- How long the monitor is busy with the output that is there now. -/
def busyTime (w : Launched) (s : System) : Nat :=
  if w.isReading then
    lineTime * ((s.pipes[w.pipe]?.map fun q => q.pieces.flatten.count '\n').getD 0)
  else 0

/-- The monitor takes all output and then the exit of the process, if there is one. What is written
after that is read by nobody. -/
def attend (w : Launched) (launch : Launch) (s : System) : Launched × List Log.Line × System :=
  if w.isDead then (w, [], s)
  else
    let (w, lines, s) := w.takeOutput launch s
    match s.ending? w.process with
    | none => (w, lines, s)
    | some e =>
      let (w, more) := w.give launch (.exit e.code?)
      (w, lines ++ more, (s.forget w.process).closeReading w.pipe)

end Launched

namespace Supervisor

def new (launch : Launch) (programs : Programs) (files : Files) : Supervisor :=
  ⟨launch, programs, .new files, 0, [], [], []⟩

def now (s : Supervisor) : Nat := s.system.now

def workerIdVariable : String := "DEVLOOP_WORKER_ID"

def call (s : Supervisor) (id : Nat) (artifact : Path) : Process.Call where
  program := Text.encode s.launch.runtime
  args := s.launch.args.map Text.encode ++ [artifact.bytes]
  base := Files.top
  cwd := s.launch.cwd
  env := Settings.Variables.set s.launch.env workerIdVariable (toString id)

def note (s : Supervisor) (lines : List Log.Line) : Supervisor := { s with log := s.log ++ lines }

def worker? (s : Supervisor) (id : Nat) : Option Launched := s.workers.find? (·.id == id)

/-- The worker that started as the `n`-th, from 0 on. -/
def startedAs? (s : Supervisor) (n : Nat) : Option Launched := (s.started[n]?).bind s.worker?

def put (s : Supervisor) (w : Launched) : Supervisor :=
  { s with workers := s.workers.map fun v => if v.id == w.id then w else v }

def move (s : Supervisor) (id : Nat) (m : Move) : Supervisor :=
  { s with workers := s.workers.map fun w => if w.id == id then w.move s.launch m else w }

def isDead (s : Supervisor) (id : Nat) : Bool := (s.worker? id).all Launched.isDead

/-- Every monitor takes what there is for it. -/
def attend (s : Supervisor) : Supervisor :=
  s.workers.foldl (fun s w =>
    if w.isDead then s
    else
      let (w, lines, system) := w.attend s.launch s.system
      ({ s with system }.note lines).put w) s

/-- Lets all processes run up to a time, or until something holds; so many steps are made at most. -/
def runUntil (time : Nat) (done : Supervisor → Bool) : Nat → Supervisor → Supervisor
  | 0, s => s
  | steps + 1, s =>
    let s := s.attend
    if done s then s
    else match s.system.step? s.programs time with
      | some system => runUntil time done steps { s with system }
      | none => { s with system := s.system.waitUntil time }

def await (s : Supervisor) (wait : Nat) (done : Supervisor → Bool) : Supervisor :=
  runUntil (s.now + wait) done System.manySteps s

def pass (s : Supervisor) (wait : Nat) : Supervisor := s.await wait fun _ => false

def signalTime : Nat := 100

def signal (s : Supervisor) (id signal : Nat) : Supervisor :=
  let s := s.await signalTime (·.isDead id)
  match s.worker? id with
  | none => s
  | some w => { s with system := s.system.send w.process signal }

def killLine (s : Supervisor) (id : Nat) : Log.Line :=
  .warn s!"Worker {id} did not exit within {s.launch.shutdownTimeoutMs}ms, killing it"

/-- Lets processes go on for some microseconds in which no monitor takes anything. -/
def leave (s : Supervisor) (time : Nat) : Supervisor :=
  { s with
    system := s.system.runUntil s.programs (s.now + time) (fun _ => false) System.manySteps }

def requestTime : Nat := 100

/-- The monitor of a worker takes output until there is none, busy with what it has taken in between;
so many times it looks at most. -/
def takeAll (id : Nat) : Nat → Supervisor → Supervisor
  | 0, s => s
  | looks + 1, s =>
    let busy := ((s.worker? id).map (·.busyTime s.system)).getD 0
    let s := s.attend
    if busy = 0 then s else takeAll id looks (s.leave busy)

/-- A monitor that is asked to stop its worker does so once there is no output: it asks the process to
exit, and kills it when it takes too long. -/
def terminate (s : Supervisor) (id : Nat) : Supervisor :=
  let s := takeAll id System.manySteps (s.leave requestTime)
  if s.isDead id then s
  else
    let s := (s.move id (.turn none none)).signal id Process.term
    let s := s.await (s.launch.shutdownTimeoutMs * 1000) (·.isDead id)
    if s.isDead id then s
    else
      let s := (s.note [s.killLine id]).signal id Process.kill
      s.await signalTime (·.isDead id)

def startLine (s : Supervisor) (id : Nat) (artifact : Path) : Log.Line :=
  let args := " ".intercalate s.launch.args
  .info s!"Starting worker {id}: {s.launch.runtime} {args} {artifact.display}"

def isDecided (s : Supervisor) (id : Nat) : Bool :=
  (s.worker? id).all fun w => 0 < w.life.monitor.signals || w.isDead

def attempt (s : Supervisor) (id : Nat) : Attempt := ((s.worker? id).map (·.life.attempt)).getD .waiting

def awaitReady (s : Supervisor) (id : Nat) : Supervisor :=
  let s := s.await (s.launch.readyTimeoutMs * 1000) (·.isDecided id)
  let s := s.move id (.look false)
  match s.attempt id with
  | .started => s.note [.info s!"Worker {id} ready"]
  | .failed (.exited code) =>
    s.note [.error s!"Worker {id} exited before reporting ready (code {Fault.codeText code})"]
  | _ =>
    let s := (s.move id (.look true)).note [
      .error s!"Worker {id} did not report ready within {s.launch.readyTimeoutMs}ms, stopping it",
      .info s!"Stopping worker {id}"]
    (s.terminate id).move id (.look true)

/-- Starts a worker on an artifact: the number of the worker, or why there is none. -/
def start (s : Supervisor) (artifact : Path) : Except Fault Nat × Supervisor :=
  let id := s.launched + 1
  let s := { s with launched := id }.note [s.startLine id artifact]
  match s.system.launchReading s.programs (s.call id artifact) with
  | .error cause => (.error (.spawn s.launch.runtime cause), s)
  | .ok (process, pipe, system) =>
    let w : Launched := ⟨id, process, pipe, [], .new⟩
    let s := { s with system, workers := s.workers ++ [w] }.awaitReady id
    match s.attempt id with
    | .failed fault => (.error fault, s)
    | _ => (.ok id, { s with started := s.started ++ [id] })

def stop (s : Supervisor) (id : Nat) : Supervisor :=
  if s.isDead id then s.note [.debug s!"Worker {id} already dead, nothing to stop"]
  else ((s.note [.info s!"Stopping worker {id}"]).move id .stop).terminate id

def drop (s : Supervisor) (id : Nat) : Supervisor := (s.move id .drop).terminate id

def longestWait : Nat := 600 * 1000000

def awaitExit (s : Supervisor) (id : Nat) : Supervisor := s.await longestWait (·.isDead id)

end Supervisor

end DevServer.Worker
