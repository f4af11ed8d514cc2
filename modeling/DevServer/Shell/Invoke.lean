import DevServer.Shell.Evaluate

/-!
# Calling a shell

A shell is called with options, and then with a script as a text, with the path of one, or with one on
its standard input. Its session begins with the variables of its environment.
-/

namespace DevServer.Shell

open Process (Routine)
open Text (Octets)

/-- How a shell is called. -/
structure Invocation where
  /-- Whether the script is the first argument behind the options. -/
  takesText : Bool
  rest : List Octets
  deriving DecidableEq, Repr

namespace Invocation

/-- Reads the letters of one argument with options. -/
def letters (on : Bool) : Invocation → List Char → Sh Invocation
  | i, [] => return i
  | i, 'c' :: cs => letters on { i with takesText := true } cs
  | i, 'l' :: cs => letters on i cs
  | i, 'o' :: cs => do
    match i.rest with
    | [] => showOptions on
    | name :: _ => setNamedOption name on
    letters on { i with rest := i.rest.drop 1 } cs
  | i, c :: cs => do
    setOption c on
    letters on i cs

/-- Reads the options in front of the arguments; there are no more than these arguments. -/
def options : Nat → Invocation → Sh Invocation
  | 0, i => return i
  | fuel + 1, i => do
    match i.rest with
    | ['-'] :: rest | ['-', '-'] :: rest => return { i with rest }
    | (sign :: cs) :: rest =>
      if sign = '-' || sign = '+' then
        options fuel (← letters (sign == '-') { i with rest } cs)
      else return i
    | _ => return i

def ofArguments (args : List Octets) : Sh Invocation := options (args.length + 1) ⟨false, args⟩

end Invocation

/-! ### Sessions -/

/-- The variables of an environment; entries that assign nothing are dropped. -/
def importedBindings (environment : List Octets) : List (Octets × Variable) :=
  environment.foldl (fun bindings entry =>
    match nameAndValue entry with
    | (name, some value) =>
      if isName name then (name, ⟨some value, true, false⟩) :: bindings.filter (·.1 != name)
      else bindings
    | _ => bindings) []

/-- A session before anything is known of it but its name and its environment. -/
def Session.new (name : Octets) (environment : List Octets) : Session where
  name
  arguments := []
  bindings := importedBindings environment
  functions := []
  aliases := []
  traps := []
  arrived := []
  options := []
  status := 0
  command := none
  outputStatus := 0
  trapStatus := none
  number := 0
  jobs := []
  last := none
  loops := 0
  frames := []
  calls := 0
  documents := []
  asked := 0
  line := 0
  place := []
  optionAt := 0
  tracked := []

/-- Gives a variable a value, exported as it was. -/
def setVariable (name value : Octets) : Sh Unit := do
  let exported := ((← get).bindings.lookup name).any (·.exported)
  Sh.bind name (some ⟨some value, exported, false⟩)

/-- Variables that every session has if the environment does not set them. -/
def usualVariables : List (String × Octets) :=
  [("PATH", usualSearch), ("PS1", ['#', ' ']), ("PS2", ['>', ' ']), ("PS4", ['+', ' '])]

/-- The working directory as it was reached, if the environment names it rightly. -/
def inheritedPlace? : Sh (Option Octets) := do
  match ← Sh.valueOf? placeName with
  | none => return none
  | some path =>
    if path.head? != some '/' then return none
    match ← Sh.ask (.status path true), ← Sh.ask (.status ['.'] true) with
    | .ok a, .ok b => return if a.node = b.node then some path else none
    | _, _ => return none

/-- Begins a session. -/
def beginSession : Sh Unit := do
  let number : Nat ← Sh.ask .ownNumber
  let parent : Nat ← Sh.ask .parentNumber
  modify fun s => { s with number }
  for (name, value) in usualVariables do
    if (← Sh.valueOf? name.toList).isNone then setVariable name.toList value
  setVariable "IFS".toList [' ', '\t', '\n']
  setVariable Sh.optionIndexName ['1']
  setVariable "PPID".toList (digits parent)
  let place ← match ← inheritedPlace? with
    | some path => pure path
    | none => Sh.workingPlace
  modify fun s => { s with place }
  setVariable placeName place
  Sh.export_ placeName

/-! ### Scripts -/

variable (next : Evaluation)

/-- Runs a whole script; behind the last command of a text the shell ends. -/
def runWhole (last : Bool) (text : Octets) : Sh Nat := next (.script false last 1 text)

/-- The name and the arguments of a script, as far as they are given. -/
def nameScript : List Octets → Sh Unit
  | [] => pure ()
  | name :: arguments => modify fun s => { s with name, arguments }

/-- Runs a script from the standard input. -/
def runInput : Sh Nat := do
  let text := (← liftM (Routine.readAll 0)).toOption.getD []
  runWhole next false text

/-- Runs a script from a file, which has its name from its path. -/
def runFile (path : Octets) (arguments : List Octets) : Sh Nat := do
  match ← Sh.ask (.open path .reading) with
  | .error cause => Sh.fail ("cannot open ".toList ++ path ++ ": ".toList ++ openText false cause)
  | .ok descriptor =>
    nameScript (path :: arguments)
    let text := (← liftM (Routine.readAll descriptor)).toOption.getD []
    let _ ← Sh.ask (.close descriptor)
    runWhole next false text

/-- What a shell does with its arguments. -/
def runShell (args : List Octets) : Sh Nat := do
  beginSession
  let i ← Invocation.ofArguments args
  let fromInput ← Sh.hasOption 's'
  match i.takesText, i.rest with
  | true, [] => Sh.fail "-c requires an argument".toList
  | true, text :: rest =>
    nameScript rest
    let status ← runWhole next (!fromInput) text
    if fromInput then runInput next else return status
  | false, [] => runInput next
  | false, path :: rest =>
    if fromInput then
      modify fun s => { s with arguments := i.rest }
      runInput next
    else runFile next path rest

/-- A depth that suffices unless functions call one another very deeply. -/
def depth : Nat := 10000

/-- The program that is a shell. -/
def shell (name : Octets) (args environment : List Octets) : Routine Nat := do
  let next : Evaluation := evaluate depth
  let (status, _) ← (do
    let result ← Sh.attempt (runShell next args)
    conclude next result : Sh Nat).run (.new name environment)
  return status.toOption.getD Sh.mistakeStatus

end DevServer.Shell
