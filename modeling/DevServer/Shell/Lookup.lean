import DevServer.Shell.Builtin

/-!
# Finding commands

What a name stands for: a function, a command of the shell itself, or a program that is found by its
path or in the directories of a search path.
-/

namespace DevServer.Shell

open Failure (Cause)
open Process (Request Routine Image)
open Text (Octets)

inductive Meaning where
  | special
  | regular
  | function (body : Command)
  /-- A program, in one of the directories of the search path or where its path says. -/
  | program
  | unknown (cause : Cause)

/-- Where programs are looked for if nothing else is said. -/
def usualSearch : Octets := "/usr/local/sbin:/usr/local/bin:/usr/sbin:/usr/bin:/sbin:/bin".toList

def searchPath : Sh (List Octets) := do
  return colonCut ((← Sh.valueOf? "PATH".toList).getD [])

/-- What a failed search for a file is called, by what was to be done with it. -/
def openText (makes : Bool) (c : Cause) : Octets :=
  if c = .notFound || c = .notDirectory then
    (if makes then "Directory nonexistent" else "No such file").toList
  else causeText c

def runText (c : Cause) : Octets :=
  if c = .notFound || c = .notDirectory then "not found".toList else causeText c

/-- Whether a file can be run. -/
def isRunnable (s : Process.Status) : Bool := s.isRegular && (s.mode &&& 0o111) != 0

/-- The first fitting file of a name in some directories, or why there is none. -/
def findIn (fits : Process.Status → Bool) (name : Octets) :
    Cause → List Octets → Sh (Except Cause Octets)
  | cause, [] => return .error cause
  | cause, directory :: directories => do
    let path := underDirectory directory name
    match ← Sh.ask (.status path true) with
    | .ok status => if fits status then return .ok path else findIn fits name .notPermitted directories
    | .error c =>
      findIn fits name (if c = .notFound || c = .notDirectory then cause else c) directories

def isPath (name : Octets) : Bool := name.contains '/'

/-- What a name stands for; functions can be passed over. -/
def meaningOf (functions : Bool) (search : List Octets) (name : Octets) : Sh Meaning := do
  if isPath name then return .program
  let s ← get
  match if functions then s.functions.lookup name else none with
  | some body => return .function body
  | none =>
    if isSpecialCommand name then return .special
    else if isBuiltin name then return .regular
    else if (s.tracked.lookup name).isSome then return .program
    else match ← findIn isRunnable name .notFound search with
      | .ok path =>
        set { s with tracked := s.tracked ++ [(name, path)] }
        return .program
      | .error cause => return .unknown cause

/-- The place of a name in the table of those that are tracked. -/
def trackingPlace (name : Octets) : Nat :=
  ((name.map Char.toNat).foldl (· + ·) ((name.headD ' ').toNat * 16)) % 32768 % 31

/-- Lists the programs that are tracked, forgets them, or tracks some. -/
def hashCommand (args : List Octets) : Sh Nat := do
  let (given, names) ← options ['r', 'v'] [] args
  if given.any (·.1 == 'r') then modify fun s => { s with tracked := [] }
  else if names.isEmpty then
    let tracked := (← get).tracked.mergeSort fun a b => trackingPlace a.1 ≤ trackingPlace b.1
    return ← print (tracked.flatMap fun (_, path) => path ++ ['\n'])
  let mut status := 0
  for name in names do
    modify fun s => { s with tracked := s.tracked.filter (·.1 != name) }
    match ← meaningOf true (← searchPath) name with
    | .unknown cause =>
      Sh.complain (name ++ ": ".toList ++ runText cause)
      status := 1
    | _ => pure ()
  return status

/-! ### Becoming a program -/

/-- The shell that runs scripts which name no interpreter. -/
def usualShell : Octets := "/bin/sh".toList

/-- Becomes a program at a path; a file that is no program is taken as a script. -/
def executeAt (path : Octets) (argv environment : List Octets) : Routine Cause := do
  let cause ← Routine.execute ⟨path, argv, environment⟩
  if cause = .wrongFormat then
    Routine.execute ⟨usualShell, usualShell :: path :: argv.drop 1, environment⟩
  else return cause

/-- Becomes a program that is looked for in some directories; the value says why there is none. -/
def executeIn (argv environment : List Octets) : Cause → List Octets → Routine Cause
  | cause, [] => return cause
  | cause, directory :: directories => do
    let failed ← executeAt (underDirectory directory (argv.headD [])) argv environment
    executeIn argv environment
      (if failed = .notFound || failed = .notDirectory then cause else failed) directories

/-- The status of a program that could not be run. -/
def notRunStatus (c : Cause) : Nat :=
  if [Cause.notFound, .notDirectory, .linkLoop, .nameTooLong].contains c then 127 else 126

/-- Becomes a program; if that fails, the shell ends. -/
def become {A : Type} (search argv : List Octets) : Sh A := do
  let environment ← Sh.environment
  let name := argv.headD []
  let cause ← liftM (if isPath name then executeAt name argv environment
    else executeIn argv environment .notFound search)
  Sh.complain (name ++ ": ".toList ++ runText cause)
  Sh.setStatus (notRunStatus cause)
  Sh.jump .exit

/-! ### Describing -/

/-- Says what a name stands for, in short or in words. -/
def describe (inWords : Bool) (search : List Octets) (name : Octets) : Sh Nat := do
  let say (short words : Octets) : Sh Nat :=
    print ((if inWords then name ++ words else short) ++ ['\n'])
  if keywords.contains (String.ofList name) then
    return ← say name " is a shell keyword".toList
  if let some value := (← get).aliases.lookup name then
    return ← say ("alias ".toList ++ (aliasText name value).dropLast)
      (" is an alias for ".toList ++ value)
  let tracked := (← get).tracked.lookup name
  match ← meaningOf true search name with
  | .function _ => say name " is a shell function".toList
  | .special => say name " is a special shell builtin".toList
  | .regular => say name " is a shell builtin".toList
  | .program =>
    let found ← if isPath name then do
        pure ((← Sh.ask (.status name true)).map fun _ => name)
      else findIn isRunnable name .notFound search
    let isTracked := tracked.isSome && !isPath name
    match found with
    | .ok path => say path ((if isTracked then " is a tracked alias for " else " is ").toList ++ path)
    | .error _ =>
      if inWords then
        let _ ← print (name ++ ": not found\n".toList)
      return 127
  | .unknown _ =>
    if inWords then
      let _ ← print (name ++ ": not found\n".toList)
    return 127

end DevServer.Shell
