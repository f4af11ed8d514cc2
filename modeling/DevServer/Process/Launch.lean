import DevServer.Process.System

/-!
# Launching processes

A process is launched with a program, arguments, a working directory and an environment. Its standard
input is empty, and its standard output goes nowhere or to a pipe that is read from outside.
-/

namespace DevServer.Process

open Failure (Cause)
open Text (Octets)

structure Call where
  program : Bytes
  args : List Bytes
  base : Nat
  cwd : Path
  env : List (String × String)
  deriving Repr

namespace Call

/-- What is shown for a call that cannot be passed to the system. -/
def zeroByte : Cause := .other "nul byte found in provided data"

/-- The environment of whoever launches processes. -/
def outerEnvironment : List (String × String) :=
  [("HOME", "/root"), ("PATH", "/usr/local/sbin:/usr/local/bin:/usr/sbin:/usr/bin:/sbin:/bin")]

/-- The environment of the process, in the order of its names. -/
def environment (c : Call) : List Octets :=
  let outer := outerEnvironment.filter fun (name, _) => !c.env.any (·.1 == name)
  let sorted := (outer ++ c.env).mergeSort fun a b =>
    Path.compareBytes (Text.encode a.1) (Text.encode b.1) != .gt
  sorted.map fun (name, value) => Octets.ofString name ++ '=' :: Octets.ofString value

def search (c : Call) : List Bytes :=
  let path := ((c.env.lookup "PATH").orElse fun _ => outerEnvironment.lookup "PATH").getD ""
  (Text.encode path).foldr (fun b parts =>
    if b = 0x3A then [] :: parts
    else match parts with
      | first :: rest => (b :: first) :: rest
      | [] => [[b]]) [[]]

/-- Names of programs are at most this long where they are looked for. -/
def longestProgram : Nat := 255

/-- The first program of a name in some directories, with what it is; the cause is that of the last
directory, unless permission was missing somewhere. -/
def findIn (t : Files) (cwd : Nat) (args : List Octets) (name : Bytes) :
    Cause → Bool → List Bytes → Except Cause (String × List Octets)
  | cause, denied, [] => .error (if denied then .notPermitted else cause)
  | _, denied, directory :: rest =>
    let path := if directory.isEmpty then name else directory ++ 0x2F :: name
    match System.resolve t cwd System.interpreterDepth (Octets.ofBytes path) args with
    | .ok found => .ok found
    | .error cause =>
      if cause = .notPermitted then findIn t cwd args name cause true rest
      else if cause = .notFound || cause = .notDirectory then findIn t cwd args name cause denied rest
      else .error cause

/-- The program that is run with its arguments, and the directory, or why there is none. -/
def resolve (c : Call) (t : Files) : Except Cause (Nat × String × List Octets) := do
  let texts := c.program :: c.cwd.bytes :: c.args
  let inEnvironment := c.env.any fun (name, value) => name.contains '\x00' || value.contains '\x00'
  if texts.any (·.contains 0) || inEnvironment then throw zeroByte
  let cwd ← t.find c.base c.cwd.bytes true
  if !t.isDirectory cwd then throw .notDirectory
  let args := (c.program :: c.args).map Octets.ofBytes
  let (name, args) ←
    if c.program.contains 0x2F then
      System.resolve t cwd System.interpreterDepth (Octets.ofBytes c.program) args
    else if c.program.isEmpty then throw .notFound
    else if longestProgram < c.program.length then throw .nameTooLong
    else findIn t cwd args c.program .notFound false c.search
  return (cwd, name, args)

end Call

namespace System

def addNowhere (s : System) : Nat × System :=
  let node := ((s.files.find Files.top "/dev/null".toUTF8.toList true).toOption).getD Files.top
  s.addOpened (.node node 0 ⟨true, true, none, false, false, false⟩)

def usualMask : Nat := 0o022

/-- Launches a process whose output goes to a place in the table, or nowhere; the value is its number,
or why it could not be launched. -/
def launch (programs : Programs) (s : System) (c : Call) (output : Option Nat) : Except Cause (Nat × System) := do
  let (cwd, name, args) ← c.resolve s.files
  let (nowhere, s) := s.addNowhere
  let number := s.next
  let p : Running := {
    number
    parent := launcher
    group := launcher
    rest := programs name args c.environment
    due := s.now + executeTime
    descriptors := [(0, nowhere), (1, output.getD nowhere), (2, nowhere)]
    cwd
    mask := usualMask
    handlings := []
    arrived := []
    held := []
    stopped := false
    ending := none }
  return (number, { s with running := s.running ++ [p], next := number + 1 })

/-- Launches a process whose output goes to a pipe that is read from outside; the second number is that
of the pipe. -/
def launchReading (programs : Programs) (s : System) (c : Call) : Except Cause (Nat × Nat × System) := do
  let (pipe, s) := s.addPipe
  let (source, s) := s.addOpened (.source pipe)
  let (sink, s) := s.addOpened (.sink pipe)
  let (number, s) ← s.launch programs c (some sink)
  return (number, pipe, { s with outside := source :: s.outside })

/-- Takes out of a pipe what it holds, from outside; the second value says that nothing can come any
more. -/
def drain (s : System) (pipe : Nat) : Octets × Bool × System :=
  match s.pipes[pipe]? with
  | none => ([], true, s)
  | some q =>
    let isEnd := !s.isOpen (.sink pipe)
    if q.size = 0 then ([], isEnd, s)
    else (q.pieces.flatten, isEnd, { s with pipes := s.pipes.set! pipe ⟨[], 0⟩ })

def closeReading (s : System) (pipe : Nat) : System :=
  { s with outside := s.outside.filter fun place => s.opened[place]? != some (.source pipe) }

def ending? (s : System) (number : Nat) : Option Ending := (s.process? number).bind (·.ending)

def waitUntil (s : System) (time : Nat) : System := { s with now := max s.now time }

def forget (s : System) (number : Nat) : System :=
  { s with running := s.running.filter fun p => p.number != number || p.isAlive }

end System

end DevServer.Process
