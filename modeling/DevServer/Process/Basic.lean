import DevServer.Files.Edit
import DevServer.Process.Ending
import DevServer.Text.Octets

/-!
# Processes

A process is the tree of what it asks the system for: each request goes on with the answer. A
process that forks goes on twice, and one that executes a program becomes that program. A
`Routine` is a stretch of a process that comes to a value.
-/

namespace DevServer

open Failure (Cause)
open Text (Octets)

namespace Process

inductive Handling where
  | usual
  | ignored
  | caught
  deriving DecidableEq, Repr

inductive Waiting where
  | untilOne
  /-- Until one has ended or a caught signal comes. -/
  | untilSignal
  | never
  deriving DecidableEq, Repr

structure Status where
  node : Nat
  mode : Nat
  changed : Nat
  size : Nat
  isDirectory : Bool
  isRegular : Bool
  isLink : Bool
  deriving DecidableEq, Repr

/-- What a process can ask for. Descriptors are numbers, and so are processes. -/
inductive Request where
  | pause (time : Nat)
  | ownNumber
  | parentNumber
  /-- Makes a group of the process and those that it will fork. -/
  | leadGroup
  /-- A child that has ended, out of those named, or of all. -/
  | await (child : Option Nat) (waiting : Waiting)
  /-- To a process, to a group by its number with a minus sign, or to one's own group for 0. -/
  | signal (target : Int) (number : Nat)
  | handle (number : Nat) (handling : Handling)
  | handling (number : Nat)
  /-- The caught signals that have come since the last time. -/
  | arrived
  | open (path : Octets) (opening : Opening)
  | close (descriptor : Nat)
  /-- Makes the target lead where the source leads. -/
  | duplicate (source target : Nat)
  /-- The least descriptor from 10 on that leads where this one leads. -/
  | save (descriptor : Nat)
  /-- A pipe: what is written to the second can be read from the first. -/
  | pipe
  /-- The next bytes, at most so many; none at the end. -/
  | read (descriptor limit : Nat)
  | write (descriptor : Nat) (bytes : Octets)
  | status (path : Octets) (through : Bool)
  | list (path : Octets)
  | readLink (path : Octets)
  | edit (e : FileEdit)
  | enter (path : Octets)
  | place
  | mask (new : Option Nat)
  deriving Repr

def Request.Answer : Request → Type
  | pause _ | handle _ _ | leadGroup => Unit
  | ownNumber | parentNumber | mask _ => Nat
  | await _ _ => Option (Nat × Ending)
  | signal _ _ | close _ | duplicate _ _ | edit _ | enter _ => Except Cause Unit
  | handling _ => Handling
  | arrived => List Nat
  | .open _ _ | save _ | write _ _ => Except Cause Nat
  | pipe => Nat × Nat
  | read _ _ | readLink _ => Except Cause Octets
  | status _ _ => Except Cause Status
  | list _ => Except Cause (List Octets)
  | place => Octets

/-- A program that is to be executed: where it is, what it is given, and its environment. -/
structure Image where
  path : Octets
  arguments : List Octets
  environment : List Octets
  deriving DecidableEq, Repr

end Process

inductive Process where
  | exit (code : Nat)
  | ask (r : Process.Request) (next : r.Answer → Process)
  /-- The child goes its own way; the parent is told its number. -/
  | fork (child : Process) (next : Nat → Process)
  | execute (image : Process.Image) (failed : Cause → Process)

namespace Process

/-- A stretch of a process that comes to a value. -/
def Routine (A : Type) : Type := (A → Process) → Process

namespace Routine

instance : Monad Routine where
  pure a := fun next => next a
  bind m f := fun next => m fun a => f a next

def ask (r : Request) : Routine r.Answer := fun next => .ask r next

def exit {A : Type} (code : Nat) : Routine A := fun _ => .exit code

/-- The whole process of a routine that comes to its status. -/
def whole (m : Routine Nat) : Process := m .exit

def fork (child : Routine Nat) : Routine Nat := fun next => .fork child.whole next

/-- Becomes a program; the value says why that failed. -/
def execute (image : Image) : Routine Cause := fun next => .execute image next

/-- Takes turns as long as they give a new state, but at most so many. -/
def repeated {S A : Type} (turn : S → Routine (S ⊕ A)) (last : S → A) : Nat → S → Routine A
  | 0, s => pure (last s)
  | turns + 1, s => do
    match ← turn s with
    | .inl s => repeated turn last turns s
    | .inr a => return a

/-- More turns than any process takes. -/
def manyTurns : Nat := 1000000000000

/-- Writes all bytes, piece by piece. -/
def writeAll (descriptor : Nat) (bytes : Octets) : Routine (Except Cause Unit) :=
  if bytes.isEmpty then pure (.ok ())
  else repeated (fun rest => do
    match ← ask (.write descriptor rest) with
    | .error cause => return .inr (.error cause)
    | .ok n =>
      let rest := rest.drop n
      return if rest.isEmpty then .inr (.ok ()) else .inl rest) (fun _ => .ok ()) manyTurns bytes

/-- So many bytes are read at once. -/
def readSize : Nat := 131072

def readAll (descriptor : Nat) : Routine (Except Cause Octets) :=
  repeated (fun (pieces : List Octets) => do
    match ← ask (.read descriptor readSize) with
    | .error cause => return .inr (.error cause)
    | .ok [] => return .inr (.ok pieces.reverse.flatten)
    | .ok piece => return .inl (piece :: pieces)) (fun pieces => .ok pieces.reverse.flatten) manyTurns []

def readFile (path : Octets) : Routine (Except Cause Octets) := do
  match ← ask (.open path .reading) with
  | .error cause => return .error cause
  | .ok descriptor =>
    let content ← readAll descriptor
    let _ ← ask (.close descriptor)
    return content

end Routine

end Process

end DevServer
