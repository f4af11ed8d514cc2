import DevServer.Build.Command
import DevServer.Build.Pipeline
import DevServer.Change.Watcher

/-!
# Projects under construction

A project is a system of files and processes with a pipeline that watches it and builds it. Listeners
wait for the events of the pipeline, and the clock of the system, in microseconds, moves while they
wait. At any time the processes go first, then the watcher reports what has happened, and then the
pipeline takes its turn.
-/

namespace DevServer.Build

open Process (Programs System)

structure Project where
  command : Command
  programs : Programs
  system : System
  watcher : Watcher
  pipeline : Pipeline
  /-- The process of the build that is being done, if it could be started. -/
  process : Option Nat
  received : Nat

inductive Heard where
  | event (e : Event)
  | nothing
  | closed
  deriving DecidableEq, Repr

namespace Project

def now (p : Project) : Nat := p.system.now

def files (p : Project) : Files := p.system.files

def begin (p : Project) : Project :=
  match p.command.launch p.programs p.system with
  | .ok (process, system) => { p with system, process := some process }
  | .error _ => { p with process := none }

/-- A project whose first build has begun. The roots are seen from the directory of the command. -/
def open? (programs : Programs) (target : Target) (words : List String) (root : Path)
    (watch : List String) (window : Nat) (files : Files) : Except Fault Project :=
  if words.isEmpty then .error (.noCommand target)
  else
    let roots := watch.map fun w => root.join (Path.ofString w)
    let files := files.takeNews.2
    .ok (begin {
      command := ⟨target, words, root⟩
      programs
      system := .new files
      watcher := .new files Files.top roots
      pipeline := .new target window
      process := none
      received := 0 })

def readText (p : Project) (path : Path) : Option String := p.files.readText Files.top path.bytes

def hear (p : Project) : Project :=
  let (news, files) := p.files.takeNews
  let (events, watcher) := p.watcher.hear files Files.top news
  { p with
    system := { p.system with files }
    watcher
    pipeline := { p.pipeline with queue := p.pipeline.queue ++ events } }

/-- Whether the build that is being done has succeeded, if it has ended. -/
def success? (p : Project) : Option Bool :=
  match p.process with
  | none => some false
  | some process => (p.system.ending? process).map (·.isSuccess)

def turn? (p : Project) : Option Project :=
  match p.pipeline.activity with
  | .stopped => none
  | .building _ _ => do
    let success ← p.success?
    let pipeline ← p.pipeline.move p.now (.finish ⟨success, p.readText, ⟨0, 0⟩⟩)
    let system := p.process.elim p.system p.system.forget
    return { p with pipeline, system, process := none }
  | .waiting _ => do
    let pipeline ← p.pipeline.move p.now .turn
    let after := { p with pipeline }
    match pipeline.activity with
    | .building _ _ => return after.begin
    | .waiting _ | .stopped => return after

/-- When the pipeline can go on by itself, up to a time. -/
def timer (p : Project) (time : Nat) : Nat :=
  match p.pipeline.activity with
  | .waiting timer => min timer time
  | .building _ _ | .stopped => time

def step? (p : Project) (time : Nat) : Option Project :=
  match p.system.step? p.programs p.now with
  | some system => some { p with system }
  | none =>
    if !p.files.news.isEmpty then some p.hear
    else match p.turn? with
      | some p => some p
      | none =>
        let next := p.timer time
        match p.system.step? p.programs next with
        | some system => some { p with system }
        | none => if next ≤ p.now then none else some { p with system := p.system.waitUntil next }

def hasNews (p : Project) : Bool := p.received < p.pipeline.sent.length

/-- Goes on up to a time, or until something holds; so many steps are made at most. -/
def runUntil (time : Nat) (done : Project → Bool) : Nat → Project → Project
  | 0, p => p
  | steps + 1, p =>
    if done p then p
    else match p.step? time with
      | some p => runUntil time done steps p
      | none => p

def advance (p : Project) (time : Nat) : Project :=
  runUntil (p.now + time) (fun _ => false) System.manySteps p

def listen (p : Project) (wait : Nat) : Heard × Project :=
  let p := runUntil (p.now + wait) (fun p => p.hasNews || p.pipeline.isStopped) System.manySteps p
  match p.pipeline.sent[p.received]? with
  | some e => (.event e, { p with received := p.received + 1 })
  | none => (if p.pipeline.isStopped then .closed else .nothing, p)

/-- Something is done to the files from outside, if it can be done. -/
def change (p : Project) (edit : Files → Except Failure.Cause Files) : Project :=
  match edit p.files with
  | .ok files => { p with system := { p.system with files } }
  | .error _ => p

def shutDown (p : Project) : Project :=
  { p with pipeline := { p.pipeline with shuttingDown := true } }

def hangUp (p : Project) : Project := { p with pipeline := { p.pipeline with listening := false } }

end Project

end DevServer.Build
