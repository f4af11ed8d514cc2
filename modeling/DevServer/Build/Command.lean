import DevServer.Build.Fault
import DevServer.Log.Line
import DevServer.Process.Launch

/-!
# Build commands

A build runs the command of its target and succeeds if the command exits with 0. The first word is
the program. What it prints goes nowhere.
-/

namespace DevServer.Build

open Process (Ending Programs System)

structure Command where
  target : Target
  words : List String
  cwd : Path
  deriving Repr

namespace Command

def call (c : Command) (program : String) (args : List String) : Process.Call :=
  ⟨Text.encode program, args.map Text.encode, Files.top, c.cwd, []⟩

/-- Launches the command; the value is the number of its process. -/
def launch (c : Command) (programs : Programs) (s : System) : Except Fault (Nat × System) :=
  match c.words with
  | [] => .error (.noCommand c.target)
  | program :: args => (s.launch programs (c.call program args) none).mapError (.spawn program)

def longestBuild : Nat := 3600 * 1000000

/-- How a build has ended, if it has by now or has taken too long. -/
def ending? (s : System) (process deadline : Nat) : Option Ending :=
  (s.ending? process).orElse fun _ =>
    if s.now < deadline then none else some (.signalled Process.kill)

def run (c : Command) (programs : Programs) (s : System) : Except Fault (Ending × System) := do
  let (process, s) ← c.launch programs s
  let deadline := s.now + longestBuild
  let s := s.runUntil programs deadline (fun s => (s.ending? process).isSome) System.manySteps
  let ending := (ending? s process deadline).getD (.signalled Process.kill)
  return (ending, (s.send process Process.kill).forget process)

def startLine (c : Command) : Log.Line :=
  let words := " ".intercalate c.words
  .info s!"Building {c.target.name}: {words}"

def lines (c : Command) (e : Ending) : List Log.Line :=
  c.startLine ::
    if e.isSuccess then []
    else [.debug s!"{c.target.name} build exited with {e.describe}"]

end Command

end DevServer.Build
