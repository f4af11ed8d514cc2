import DevServer.Process.Basic
import DevServer.Shell.Source

/-!
# Sessions of a shell

What a shell knows while it runs a script. A step of a shell changes the session and asks the system
for things; it can jump out of what is being run.
-/

namespace DevServer.Shell

open Failure (Cause)
open Process (Request Routine)
open Text (Octets)

structure Variable where
  value : Option Octets
  /-- Whether programs are given it. -/
  exported : Bool
  /-- Whether it can no longer be changed. -/
  fixed : Bool
  deriving DecidableEq, Repr

/-- What runs in the background. -/
structure Job where
  /-- Jobs are numbered from 1, and the number of one that is over can be given again. -/
  slot : Nat
  /-- The process that the job ends with. -/
  number : Nat
  /-- How many processes it has. -/
  parts : Nat
  ending : Option Process.Ending
  /-- Whether its end has been waited for. -/
  waited : Bool
  deriving DecidableEq, Repr

structure Session where
  /-- The name that the shell was called by, and its arguments. -/
  name : Octets
  arguments : List Octets
  bindings : List (Octets × Variable)
  functions : List (Octets × Command)
  aliases : List (Octets × Octets)
  /-- What is run on a signal; an empty text ignores it, and signal 0 is the end of the script. -/
  traps : List (Nat × Octets)
  /-- Trapped signals that have come and are still to be dealt with. -/
  arrived : List Nat
  /-- Letters of the options that are set. -/
  options : List Char
  status : Nat
  /-- The command of the shell itself that is being run. -/
  command : Option Octets
  /-- The status of the last command whose output was taken. -/
  outputStatus : Nat
  /-- The status that a trap was entered with. -/
  trapStatus : Option Nat
  /-- The number of the process that has begun the session. -/
  number : Nat
  /-- The last one stands last. -/
  jobs : List Job
  /-- The number of the last process in the background. -/
  last : Option Nat
  /-- How many loops are being run. -/
  loops : Nat
  /-- For each function that is being run, what variables were before it. -/
  frames : List (List (Octets × Option Variable))
  /-- How many of the frames belong to functions. -/
  calls : Nat
  documents : List (Nat × Word)
  asked : Nat
  line : Nat
  /-- The working directory as it was reached. -/
  place : Octets
  /-- How far into an argument `getopts` has come. -/
  optionAt : Nat
  /-- Programs that have been found in the search path, by name. -/
  tracked : List (Octets × Octets)

/-- Out of what is being run. -/
inductive Jump where
  /-- Out of so many loops, whose last one is left or goes on. -/
  | leave (loops : Nat) (again : Bool)
  | return_
  /-- The shell ends. -/
  | exit
  /-- The shell ends, unless a command that is not special has made the mistake. -/
  | mistake
  deriving DecidableEq, Repr

abbrev Sh := ExceptT Jump (StateT Session Routine)

namespace Sh

def ask (r : Request) : Sh r.Answer := liftM (Routine.ask r)

/-- The absolute path of the working directory. -/
def workingPlace : Sh Octets := ask .place

def mask (new : Option Nat) : Sh Nat := ask (.mask new)

def handling (signal : Nat) : Sh Process.Handling := ask (.handling signal)

/-- The trapped signals that have come and are still to be dealt with. -/
def signals : Sh (List Nat) := do
  let come : List Nat ← ask .arrived
  if !come.isEmpty then modify fun s => { s with arrived := s.arrived ++ come }
  return (← get).arrived

def setStatus (status : Nat) : Sh Unit := modify fun s => { s with status }

def jump {A : Type} (j : Jump) : Sh A := throw j

/-- Does something and says how it was left. -/
def attempt {A : Type} (m : Sh A) : Sh (Except Jump A) := fun s => do
  let (result, s) ← m.run s
  return (.ok result, s)

/-- Goes on as something was left. -/
def settle {A : Type} : Except Jump A → Sh A
  | .ok a => pure a
  | .error j => throw j

/-- Does something, and then something else however the first was left. -/
def finally_ {A : Type} (m : Sh A) (after : Sh Unit) : Sh A := do
  let result ← attempt m
  after
  settle result

def put (descriptor : Nat) (text : Octets) : Sh (Except Cause Unit) :=
  liftM (Routine.writeAll descriptor text)

/-- The beginning of what is written about mistakes: the script and the line. -/
def mistakeHead : Sh Octets := do
  let s ← get
  let command := (s.command.map (· ++ ": ".toList)).getD []
  return s.name ++ ": ".toList ++ Nat.toDigits 10 s.line ++ ": ".toList ++ command

/-- Writes about a mistake. -/
def complain (text : Octets) : Sh Unit := do
  let _ ← put 2 ((← mistakeHead) ++ text ++ ['\n'])

/-- The status of mistakes. -/
def mistakeStatus : Nat := 2

/-- A mistake that ends the shell, if it is made in a special command. -/
def fail {A : Type} (text : Octets) : Sh A := do
  complain text
  setStatus mistakeStatus
  jump .mistake

def hasOption (letter : Char) : Sh Bool := return (← get).options.contains letter

/-! ### Variables -/

def valueOf? (name : Octets) : Sh (Option Octets) :=
  return ((← get).bindings.lookup name).bind (·.value)

/-- The variable that says where programs are looked for. -/
def searchName : Octets := "PATH".toList

/-- Sets everything about a variable. -/
def bind (name : Octets) (v : Option Variable) : Sh Unit :=
  modify fun s =>
    let others := s.bindings.filter (·.1 != name)
    { s with
      bindings := (v.map (name, ·)).toList ++ others
      tracked := if name = searchName then [] else s.tracked }

def optionIndexName : Octets := "OPTIND".toList

/-- Gives a variable a value, unless it is fixed. -/
def assign (name value : Octets) : Sh Unit := do
  let s ← get
  let old := s.bindings.lookup name
  if old.any (·.fixed) then fail (name ++ ": is read only".toList)
  if name = optionIndexName then modify fun s => { s with optionAt := 0 }
  let exported := old.any (·.exported) || s.options.contains 'a'
  bind name (some ⟨some value, exported, false⟩)

def checkName (name : Octets) : Sh Unit := do
  if !isName name then fail (name ++ ": bad variable name".toList)

/-- Exports a variable, with or without a value. -/
def export_ (name : Octets) : Sh Unit := do
  let old := ((← get).bindings.lookup name).getD ⟨none, false, false⟩
  bind name (some { old with exported := true })

/-- Takes a variable away, unless it is fixed. -/
def unset (name : Octets) : Sh Unit := do
  match (← get).bindings.lookup name with
  | none => pure ()
  | some v =>
    if v.fixed then fail (name ++ ": is read only".toList)
    bind name none

/-- Remembers what a variable is, for the end of the frame. -/
def makeLocal (name : Octets) : Sh Unit := do
  let s ← get
  match s.frames with
  | frame :: frames =>
    if frame.any (·.1 == name) then pure ()
    else set { s with frames := ((name, s.bindings.lookup name) :: frame) :: frames }
  | [] => pure ()

def pushFrame : Sh Unit := modify fun s => { s with frames := [] :: s.frames }

/-- Puts variables back to what they were before the frame. -/
def popFrame : Sh Unit := do
  let s ← get
  match s.frames with
  | frame :: frames =>
    set { s with frames }
    for (name, v) in frame do bind name v
  | [] => pure ()

/-- The characters at which values are cut into fields. -/
def separators : Sh Octets := do
  return ((← valueOf? "IFS".toList)).getD [' ', '\t', '\n']

/-- What programs are given of the variables. -/
def environment : Sh (List Octets) := do
  return (← get).bindings.filterMap fun (name, v) =>
    if v.exported then v.value.map fun value => name ++ '=' :: value else none

end Sh

/-- The text of a number. -/
def digits (n : Nat) : Octets := Nat.toDigits 10 n

/-- A failed request as the shell names it. -/
def causeText (c : Cause) : Octets :=
  match c with
  | .errno n => (Cause.systemText n).toList
  | c => c.message.toList

end DevServer.Shell
