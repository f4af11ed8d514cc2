import DevServer.Shell.Parse
import DevServer.Shell.Redirect

/-!
# Running scripts

One step of the evaluation is written with the rest of it as a parameter; `evaluate` puts the steps
together up to a depth. What a shell forks is a process of its own, with a copy of the session.
-/

namespace DevServer.Shell

open Process (Request Routine)
open Text (Octets)

/-- What is to be done. A failure of what is `tested` does not end the shell, and after what is `last`
the shell ends anyway. -/
inductive Work where
  | command (tested last : Bool) (c : Command)
  | script (tested last : Bool) (line : Nat) (text : Octets)
  /-- What is due on signals that have arrived. -/
  | traps

/-- How work is done; the value is the status. -/
abbrev Evaluation := Work → Sh Nat

/-- The time that a command takes, in itself. -/
def commandTime : Nat := 10

/-! ### Forks -/

/-- Whether there is something to be done on any signal or at the end. -/
def hasTraps (s : Session) : Bool := s.traps.any fun (_, text) => !text.isEmpty

/-- Traps do not hold in what is forked; signals that are ignored stay so. -/
def leaveTraps : Sh Unit := do
  for (signal, text) in (← get).traps do
    if !text.isEmpty && signal != 0 then Sh.ask (.handle signal .usual)
  modify fun s => { s with
    traps := s.traps.filter fun (_, text) => text.isEmpty
    arrived := []
    jobs := [] }

/-- Input from nowhere, and no notice of the keyboard. -/
def leaveTerminal : Sh Unit := do
  Sh.ask (.handle 2 .ignored)
  Sh.ask (.handle 3 .ignored)
  let _ ← Sh.ask (.close 0)
  let _ ← Sh.ask (.open "/dev/null".toList .reading)

variable (next : Evaluation)

/-- The end of a shell: what is to be done at the end, and the status that it leaves. -/
def conclude (result : Except Jump Nat) : Sh Nat := do
  let s ← get
  let status := match result with
    | .ok status => status
    | .error _ => s.status
  match s.traps.lookup 0 with
  | none | some [] => return status
  | some text =>
    set { s with
      status
      trapStatus := some status
      traps := s.traps.filter (·.1 != 0)
      loops := 0
      calls := 0 }
    match ← Sh.attempt (next (.script false false 1 text)) with
    | .error .exit | .error .mistake => return (← get).status
    | _ => return status

/-- Forks a shell that does something and ends. -/
def forkShell (work : Sh Nat) : Sh Nat := fun s => do
  let child : Routine Nat := do
    let (status, _) ← (do
      leaveTraps
      let result ← Sh.attempt work
      conclude next result : Sh Nat).run s
    return (match status with
      | .ok status => status
      | .error _ => Sh.mistakeStatus)
  let number ← Routine.fork child
  return (.ok number, s)

/-- Waits until a child has ended. -/
def reap (number : Nat) : Sh Nat := do
  match ← Sh.ask (.await (some number) .untilOne) with
  | some (_, e) =>
    sayEnding e
    return e.status
  | none => return 127

/-- Makes a job of processes in the background. -/
def addJob (slot parts number : Nat) : Sh Unit :=
  modify fun s => { s with jobs := s.jobs ++ [⟨slot, number, parts, none, false⟩], last := some number }

/-- Runs a command for what it writes, without the line ends at its end. -/
def outputOf : Substitution := fun c => do
  let (source, sink) : Nat × Nat ← Sh.ask .pipe
  let _ ← freeSlot
  let number ← forkShell next do
    let _ ← Sh.ask (.close source)
    moveTo sink 1
    next (.command false true c)
  let _ ← Sh.ask (.close sink)
  let text ← liftM (Routine.readAll source)
  let _ ← Sh.ask (.close source)
  let status ← reap number
  modify fun s => { s with outputStatus := status }
  let text := (text.toOption.getD []).filter (· != '\x00')
  return (text.reverse.dropWhile (· == '\n')).reverse

/-- The processes of a pipe, with the descriptor that the first one reads from, if any. -/
def forkPipe (inBackground : Bool) : Option Nat → List Command → Sh (List Nat)
  | _, [] => return []
  | input, [c] => do
    let number ← forkShell next do
      if inBackground && input.isNone then leaveTerminal
      if let some input := input then moveTo input 0
      next (.command false true c)
    if let some input := input then
      let _ ← Sh.ask (.close input)
    return [number]
  | input, c :: cs => do
    let (source, sink) : Nat × Nat ← Sh.ask .pipe
    let number ← forkShell next do
      let _ ← Sh.ask (.close source)
      if inBackground && input.isNone then leaveTerminal
      if let some input := input then moveTo input 0
      moveTo sink 1
      next (.command false true c)
    if let some input := input then
      let _ ← Sh.ask (.close input)
    let _ ← Sh.ask (.close sink)
    return number :: (← forkPipe inBackground (some source) cs)

/-! ### Simple commands -/

/-- The fields of words; behind some commands, words that assign are not cut. -/
def arguments : Bool → List Word → Sh (List Octets)
  | _, [] => return []
  | assigning, w :: ws => do
    match if assigning then Word.assignment? w else none with
    | some (name, value) =>
      let value ← expandText (outputOf next) .value value
      return (name ++ '=' :: value) :: (← arguments assigning ws)
    | none => return (← fields (outputOf next) w) ++ (← arguments assigning ws)

/-- The command and its arguments. -/
def commandLine : List Word → Sh (List Octets)
  | [] => return []
  | w :: ws => do
    match ← fields (outputOf next) w with
    | [] => commandLine ws
    | name :: more =>
      if name = "command".toList then
        match more with
        | [] => return name :: (← commandLine ws)
        | inner :: _ => return name :: more ++ (← arguments next (takesAssignments inner) ws)
      else
        return name :: more ++ (← arguments next (takesAssignments name) ws)

/-- Text that is written of a command before it is run, if that is asked for. -/
def trace (assigned : List (Octets × Octets)) (argv : List Octets) : Sh Unit := do
  if ← Sh.hasOption 'x' then
    let words := (assigned.map fun (name, value) => name ++ '=' :: value) ++ argv
    let sign := (← Sh.valueOf? "PS4".toList).getD []
    let _ ← Sh.put 2 (sign ++ joined words ++ ['\n'])

/-- Runs a script from a file in the session. -/
def sourceFile (args : List Octets) : Sh Nat := do
  match args with
  | [] => return 0
  | name :: _ =>
    let found ← if isPath name then pure (.ok name) else findIn (·.isRegular) name .notFound (← searchPath)
    match found with
    | .error _ => Sh.fail (name ++ ": not found".toList)
    | .ok path =>
      match ← liftM (Routine.readFile path) with
      | .error cause => Sh.fail ("cannot open ".toList ++ path ++ ": ".toList ++ openText false cause)
      | .ok text =>
        modify fun s => { s with command := some name }
        let line := (← get).line
        let result ← Sh.attempt (next (.script false false 1 text))
        modify fun s => { s with line }
        match result with
        | .error .return_ => return (← get).status
        | result => Sh.settle result

/-- The options of `command`, and what is behind them. -/
def commandOptions (args : List Octets) : Sh (List Char × List Octets) := do
  let (given, rest) ← options ['p', 'v', 'V'] [] args
  return (given.map (·.1), rest)

/-- Runs a command of the shell itself; a mistake ends the shell if the command is special. -/
def runBuiltin (isSpecial : Bool) (name : Octets) (run : Sh Nat) : Sh Nat := do
  let before := (← get).command
  modify fun s => { s with command := some name }
  let result ← Sh.attempt run
  modify fun s => { s with command := before }
  match result with
  | .error .mistake => if isSpecial then Sh.jump .mistake else return (← get).status
  | result => Sh.settle result

/-- Functions that run inside one another, at most. -/
def deepestCall : Nat := 1000

/-- Calls a function with arguments of its own. -/
def callFunction (tested : Bool) (body : Command) (args : List Octets) : Sh Nat := do
  let s ← get
  if deepestCall ≤ s.calls then
    Sh.fail ("Maximum function recursion depth (".toList ++ digits deepestCall ++ ") reached".toList)
  set { s with arguments := args, calls := s.calls + 1, loops := 0, optionAt := 0 }
  let result ← Sh.attempt (next (.command tested false body))
  modify fun after => { after with
    arguments := s.arguments
    calls := s.calls
    loops := s.loops
    optionAt := s.optionAt }
  match result with
  | .error .return_ => return (← get).status
  | result => Sh.settle result

/-- Runs a program and waits for it, or becomes it where nothing is to be done afterwards. -/
def runProgram (last : Bool) (search argv : List Octets) : Sh Nat := do
  if last && !hasTraps (← get) then become search argv
  else
    let _ ← freeSlot
    reap (← forkShell next (become search argv))

/-- Runs what a name stands for; `command` passes functions over. -/
def runNamed (tested last : Bool) : Nat → Bool → Bool → List Octets → List Octets → Sh Nat
  | 0, _, _, _, _ => return 127
  | _ + 1, _, _, _, [] => return (← get).outputStatus
  | fuel + 1, functions, isSpecial, search, name :: args => do
    let builtin (run : Sh Nat) : Sh Nat := runBuiltin isSpecial name run
    match ← meaningOf functions search name with
    | .function body => callFunction next tested body args
    | .program => runProgram next last search (name :: args)
    | .unknown cause =>
      Sh.complain (name ++ ": ".toList ++ runText cause)
      return 127
    | .special | .regular =>
      let word := String.ofList name
      match (special? word).orElse fun _ => regular? word with
      | some f => builtin (f args)
      | none =>
        match word with
        | "eval" =>
          builtin (if args.isEmpty then return 0
            else next (.script tested false 1 (joined args)))
        | "." => builtin (sourceFile next args)
        | "exec" =>
          let args := if args.head? == some ['-', '-'] then args.drop 1 else args
          builtin (if args.isEmpty then return 0 else become search args)
        | "hash" => builtin (hashCommand args)
        | "type" =>
          builtin do
            let statuses ← args.mapM fun name => do describe true (← searchPath) name
            return if statuses.all (· = 0) then 0 else 127
        | _ =>
          builtin do
            let (given, args) ← commandOptions args
            let search := if given.contains 'p' then colonCut usualSearch else search
            if given.contains 'v' || given.contains 'V' then
              match args with
              | name :: _ => describe (given.contains 'V') search name
              | [] => return 0
            else if args.isEmpty then return 0
            else
              modify fun s => { s with command := none }
              runNamed tested last fuel false false search args

/-- Whether the command of a line, behind any `command`, is one that leads descriptors elsewhere for
good. -/
def isExec (argv : List Octets) : Bool :=
  (argv.dropWhile (· == "command".toList)).head? == some "exec".toList

def runSimple (tested last : Bool) (line : Nat) (assignments : List (Octets × Word))
    (words : List Word) (redirections : List Redirection) : Sh Nat := do
  modify fun s => { s with line, outputStatus := 0 }
  let argv ← commandLine next words
  let isSpecial := argv.head?.any isSpecialCommand
  let framed := !argv.isEmpty && !isSpecial
  let diversions ← redirections.mapM (divert (outputOf next))
  if framed then Sh.pushFrame
  let (saved, redirected) ← applyAll [] diversions
  let finish : Sh Unit := do
    if isExec argv then forget saved else restore saved
    if framed then Sh.popFrame
  match redirected with
  | .error _ =>
    restore saved
    if framed then Sh.popFrame
    Sh.setStatus Sh.mistakeStatus
    if isSpecial then Sh.jump .mistake else return Sh.mistakeStatus
  | .ok () =>
    let run : Sh Nat := do
      let mut assigned : List (Octets × Octets) := []
      for (name, value) in assignments do
        let value ← expandText (outputOf next) .value value
        if framed then Sh.makeLocal name
        Sh.assign name value
        if framed || isExec argv then Sh.export_ name
        assigned := assigned ++ [(name, value)]
      trace assigned argv
      runNamed next tested last 100 true isSpecial (← searchPath) argv
    Sh.finally_ run finish

/-! ### Compound commands -/

/-- What a loop does after its body: whether it goes on, or something else is left too. -/
def afterBody (result : Except Jump Nat) : Sh (Bool × Except Jump Nat) := do
  match result with
  | .ok status => return (true, .ok status)
  | .error (.leave loops again) =>
    if loops ≤ 1 then return (again, .ok 0) else return (false, .error (.leave (loops - 1) again))
  | .error j => return (false, .error j)

/-- Loops take turns as long as these ask for another one. -/
def loopTurns (turn : Nat → Sh (Bool × Except Jump Nat)) : Nat → Nat → Sh Nat
  | 0, status => return status
  | turns + 1, status => do
    match ← turn status with
    | (true, .ok status) => loopTurns turn turns status
    | (_, result) => Sh.settle result

/-- Runs something as a loop. -/
def asLoop (run : Sh Nat) : Sh Nat := do
  modify fun s => { s with loops := s.loops + 1 }
  Sh.finally_ run (modify fun s => { s with loops := s.loops - 1 })

def runRepeated (tested until_ : Bool) (test body : Command) : Sh Nat :=
  asLoop (loopTurns (fun status => do
    match ← afterBody (← Sh.attempt (next (.command true false test))) with
    | (true, .ok found) =>
      if (found = 0) = until_ then return (false, .ok status)
      else afterBody (← Sh.attempt (next (.command tested false body)))
    | (again, .ok _) => return (again, .ok status)
    | result => return result) Routine.manyTurns 0)

def runEach (tested : Bool) (name : Octets) (body : Command) (values : List Octets) : Sh Nat :=
  asLoop (go 0 values)
where
  go (status : Nat) : List Octets → Sh Nat
    | [] => return status
    | value :: values => do
      Sh.assign name value
      match ← afterBody (← Sh.attempt (next (.command tested false body))) with
      | (true, .ok status) => go status values
      | (_, result) => Sh.settle result

def matchesAny (text : Octets) : List Word → Sh Bool
  | [] => return false
  | w :: ws => do
    if globMatches (← expandPattern (outputOf next) w) text then return true
    else matchesAny text ws

def chooseCase (text : Octets) : List (List Word × Command) → Sh (Option Command)
  | [] => return none
  | (patterns, body) :: cases => do
    if ← matchesAny next text patterns then return some body else chooseCase text cases

/-- Runs something while descriptors are led elsewhere. -/
def whileDiverted (redirections : List Redirection) (run : Sh Nat) : Sh Nat := do
  let diversions ← redirections.mapM (divert (outputOf next))
  let (saved, redirected) ← applyAll [] diversions
  match redirected with
  | .error _ =>
    restore saved
    return Sh.mistakeStatus
  | .ok () => Sh.finally_ run (restore saved)

/-- In a fork, descriptors are led elsewhere for good. -/
def diverted (redirections : List Redirection) (run : Sh Nat) : Sh Nat := do
  let diversions ← redirections.mapM (divert (outputOf next))
  for d in diversions do apply d
  run

/-- Whether a failure of a command can end the shell. -/
def isChecked : Command → Bool
  | .simple _ _ _ _ | .pipe _ | .apart _ _ _ => true
  | _ => false

def runBody (tested last : Bool) (c : Command) : Sh Nat := do
  match c with
  | .nothing => return (← get).status
  | .simple line assignments words redirections =>
    Sh.ask (.pause commandTime)
    runSimple next tested last line assignments words redirections
  | .redirected line c redirections =>
    modify fun s => { s with line }
    whileDiverted next redirections (next (.command tested false c))
  | .sequence first second =>
    let _ ← next (.command tested false first)
    next (.command tested last second)
  | .also first second =>
    let status ← next (.command true false first)
    if status = 0 then next (.command tested last second) else return status
  | .otherwise first second =>
    let status ← next (.command true false first)
    if status = 0 then return status else next (.command tested last second)
  | .negated c => return if (← next (.command true false c)) = 0 then 1 else 0
  | .pipe parts =>
    let _ ← freeSlot
    let numbers ← forkPipe next false none parts
    let statuses ← numbers.mapM reap
    return statuses.getLastD 0
  | .background line c =>
    modify fun s => { s with line }
    let slot ← freeSlot
    match c with
    | .pipe parts =>
      let numbers ← forkPipe next true none parts
      addJob slot parts.length (numbers.getLastD 0)
    | c =>
      addJob slot 1 (← forkShell next do
        leaveTerminal
        match c with
        | .apart _ c redirections => diverted next redirections (next (.command false true c))
        | c => next (.command false true c))
    return 0
  | .apart line c redirections =>
    modify fun s => { s with line }
    if last && !hasTraps (← get) then
      modify fun s => { s with jobs := [] }
      diverted next redirections (next (.command tested true c))
    else
      let _ ← freeSlot
      reap (← forkShell next (diverted next redirections (next (.command tested true c))))
  | .branch test yes no =>
    let status ← next (.command true false test)
    match if status = 0 then yes else no with
    | .nothing => return 0
    | c => next (.command tested last c)
  | .repeated until_ test body => runRepeated next tested until_ test body
  | .each line name words body =>
    modify fun s => { s with line }
    runEach next tested name body (← allFields (outputOf next) words)
  | .choice line word cases =>
    modify fun s => { s with line }
    let text ← expandText (outputOf next) .text word
    match ← chooseCase next text cases with
    | none | some .nothing => return 0
    | some body => next (.command tested last body)
  | .definition _ name body =>
    modify fun s => { s with
      functions := (name, body) :: s.functions.filter (·.1 != name) }
    return 0

/-- Runs a command between dealing with signals. -/
def runCommand (tested last : Bool) (c : Command) : Sh Nat := do
  if !(← Sh.hasOption 'n') then
    let _ ← next .traps
    let status ← runBody next tested last c
    Sh.setStatus status
    if isChecked c && !tested && status != 0 && (← Sh.hasOption 'e') then Sh.jump .exit
    let _ ← next .traps
  if last then Sh.jump .exit
  return (← get).status

/-- Runs the lines of a script one after the other; a mistake ends it. -/
def runLines (tested last : Bool) : Nat → Nat → Source → Sh Nat
  | 0, status, _ => return status
  | fuel + 1, status, source => do
    let s ← get
    let source := { source with
      aliases := s.aliases, documents := s.documents, asked := s.asked }
    match parseLine source with
    | .error m =>
      modify fun s => { s with line := m.line }
      Sh.fail m.text.toList
    | .ok (none, _) => return status
    | .ok (some (c, ended), source) =>
      modify fun s => { s with documents := source.documents, asked := source.asked }
      match c with
      | none => runLines tested last fuel status source
      | some c =>
        let status ← next (.command tested (last && ended) c)
        runLines tested last fuel status source

def runTraps : Nat → Sh Nat
  | 0 => return 0
  | fuel + 1 => do
    match ← Sh.signals with
    | [] => return 0
    | come =>
      let signal := come.foldl min (come.headD 0)
      let s ← get
      set { s with arrived := s.arrived.filter (· != signal) }
      match s.traps.lookup signal with
      | none | some [] => runTraps fuel
      | some text =>
        let status := s.trapStatus.getD s.status
        modify fun s => { s with trapStatus := some status }
        let result ← Sh.attempt (next (.script false false 1 text))
        modify fun after => { after with trapStatus := s.trapStatus }
        let _ ← Sh.settle result
        Sh.setStatus status
        runTraps fuel

/-- So many signals are dealt with at once. -/
def mostSignals : Nat := 100000

def step (w : Work) : Sh Nat :=
  match w with
  | .command tested last c => runCommand next tested last c
  | .script tested last line text => runLines next tested last (text.length + 2) 0 (.ofText line text)
  | .traps => runTraps next mostSignals

/-- Does work up to a depth. -/
def evaluate : Nat → Work → Sh Nat
  | 0, _ => do
    Sh.setStatus Sh.mistakeStatus
    Sh.jump .mistake
  | depth + 1, w => step (evaluate depth) w

end DevServer.Shell
