import DevServer.Shell.Condition
import DevServer.Shell.Format

/-!
# Commands of the shell itself

What they do to the session, each with its status. Those that run scripts are with the evaluator.
-/

namespace DevServer.Shell

open Process (Request Routine)
open Text (Octets)

/-! ### Output and numbers -/

/-- Writes to the standard output; the status says whether that went well. -/
def print (text : Octets) : Sh Nat := do
  match ← Sh.put 1 text with
  | .ok () => return 0
  | .error _ =>
    Sh.complain (((← get).command.getD []) ++ ": I/O error".toList)
    return 1

/-- The number that a command is given. -/
def wholeNumber (s : Octets) : Sh Nat :=
  let refused : Sh Nat := Sh.fail ("Illegal number: ".toList ++ s)
  if s.isEmpty || !s.all Char.isDigit then refused
  else
    let n := valueInBase 10 s
    if n < Nat.pow 2 31 then return n else refused

/-- A text in single quotes, as the shell reads it. -/
def singleQuoted (s : Octets) : Octets :=
  let rec from_ : Nat → Octets → Octets
    | 0, _ => []
    | fuel + 1, s =>
      let run := s.takeWhile (· != '\'')
      let marks := (s.drop run.length).takeWhile (· == '\'')
      let rest := s.drop (run.length + marks.length)
      let front := if run.isEmpty && !marks.isEmpty then [] else '\'' :: run ++ ['\'']
      let middle := if marks.isEmpty then [] else '"' :: marks ++ ['"']
      front ++ middle ++ (if rest.isEmpty then [] else from_ fuel rest)
  from_ (s.length + 1) s

/-- Options in front of arguments: their letters with what they take, and the rest; `taking` are the
letters that take something. -/
def optionsOf (known taking : List Char) : Nat → List Octets →
    Sh (List (Char × Octets) × List Octets)
  | 0, args => return ([], args)
  | fuel + 1, args =>
    match args with
    | ['-', '-'] :: rest => return ([], rest)
    | ('-' :: c :: cs) :: rest => do
      if taking.contains c then
        match cs, rest with
        | [], value :: rest =>
          let (more, rest) ← optionsOf known taking fuel rest
          return ((c, value) :: more, rest)
        | [], [] => Sh.fail ("No arg for -".toList ++ c :: " option".toList)
        | value, rest =>
          let (more, rest) ← optionsOf known taking fuel rest
          return ((c, value) :: more, rest)
      else if known.contains c then
        let next := if cs.isEmpty then rest else ('-' :: cs) :: rest
        let (more, rest) ← optionsOf known taking fuel next
        return ((c, []) :: more, rest)
      else Sh.fail ("Illegal option -".toList ++ [c])
    | args => return ([], args)

def options (known taking : List Char) (args : List Octets) :
    Sh (List (Char × Octets) × List Octets) :=
  optionsOf known taking ((args.map List.length).foldl (· + ·) 0 + 1) args

/-! ### Signals -/

/-- The signal of a number or of a name, in any case; 0 is the end of the shell. -/
def signalOf? (s : Octets) : Option Nat :=
  if !s.isEmpty && s.all Char.isDigit then
    let n := valueInBase 10 s
    if n ≤ Process.lastSignal then some n else none
  else
    let name := (String.ofList s).toUpper
    if name = "EXIT" then some 0
    else (Process.signalNames.findIdx? (· == name)).map (· + 1)

/-- The name of a signal in lists. -/
def signalTitle (n : Nat) : Octets :=
  if n = 0 then "EXIT".toList else ((Process.signalName? n).getD (toString n)).toList

def killUsage : Octets :=
  ("Usage: kill [-s sigspec | -signum | -sigspec] [pid | job]... or\n" ++
    "kill -l [exitstatus]").toList

/-- The process of a job that is named by its place. -/
def jobNumber? (name : Octets) : Sh (Option Nat) := do
  let jobs := (← get).jobs
  let place := name.drop 1
  if place.isEmpty || place = ['%'] || place = ['+'] then return (jobs.getLast?).map (·.number)
  if place = ['-'] then return (jobs.dropLast.getLast?).map (·.number)
  return (jobs.find? (·.slot = valueInBase 10 place)).map (·.number)

def killCommand (args : List Octets) : Sh Nat := do
  let (signal, listing, targets) : Option Nat × Bool × List Octets ← match args with
    | [] => Sh.fail killUsage
    | ('-' :: name) :: targets =>
      match signalOf? name with
      | some n => pure (some n, false, targets)
      | none =>
        let (given, targets) ← options ['l'] ['s'] args
        let chosen ← match given.lookup 's' with
          | none => pure none
          | some name =>
            match signalOf? name with
            | some n => pure (some n)
            | none => Sh.fail ("invalid signal number or name: ".toList ++ name)
        pure (chosen, given.any (·.1 == 'l'), targets)
    | targets => pure (none, false, targets)
  if listing then
    match targets with
    | [] =>
      let names := (List.range Process.lastSignal).map fun n => signalTitle (n + 1)
      return ← print (['0', '\n'] ++ names.flatMap (· ++ ['\n']))
    | s :: _ =>
      let n ← wholeNumber s
      let n := if 128 < n then n - 128 else n
      if 0 < n && n ≤ Process.lastSignal then return ← print (signalTitle n ++ ['\n'])
      else Sh.fail ("invalid signal number or exit status: ".toList ++ s)
  if targets.isEmpty then Sh.fail killUsage
  let mut status := 0
  for target in targets do
    let number : Int ← match target with
      | '%' :: _ => do
        match ← jobNumber? target with
        | some n => pure (-(n : Int))
        | none => Sh.fail ("No such job: ".toList ++ target)
      | '-' :: s => do pure (-((← wholeNumber s : Nat) : Int))
      | s => do pure ((← wholeNumber s : Nat) : Int)
    match ← Sh.ask (.signal number (signal.getD Process.term)) with
    | .ok () => pure ()
    | .error cause =>
      Sh.complain (causeText cause ++ ['\n'])
      status := 1
  return status

/-- Sets what is run on a signal. Signals that were ignored from the beginning stay so. -/
def setTrap (signal : Nat) (text : Option Octets) : Sh Unit := do
  let s ← get
  let known := s.traps.lookup signal
  let isDeaf ← if signal = 0 || known.isSome then pure false
    else do pure ((← Sh.handling signal) == .ignored)
  let others := s.traps.filter (·.1 != signal)
  set { s with traps := (text.map (signal, ·)).toList ++ others }
  if signal != 0 && !isDeaf then
    Sh.ask (.handle signal (match text with
      | none => .usual
      | some [] => .ignored
      | some _ => .caught))

def trapCommand (args : List Octets) : Sh Nat := do
  let (_, args) ← options [] [] args
  match args with
  | [] =>
    let traps := (← get).traps.mergeSort fun a b => a.1 ≤ b.1
    print (traps.flatMap fun (n, text) =>
      "trap -- ".toList ++ singleQuoted text ++ ' ' :: signalTitle n ++ ['\n'])
  | first :: rest =>
    let (text, names) : Option Octets × List Octets :=
      if rest.isEmpty then (none, args)
      else if !first.isEmpty && first.all Char.isDigit then (none, args)
      else if first = ['-'] then (none, rest)
      else (some first, rest)
    for name in names do
      match signalOf? name with
      | some n => setTrap n text
      | none =>
        let _ ← Sh.put 2 ("trap: ".toList ++ name ++ ": bad trap\n".toList)
        return 1
    return 0

/-! ### Variables -/

/-- A name with a value behind an equals sign, if there is one. -/
def nameAndValue (a : Octets) : Octets × Option Octets :=
  match a.dropWhile (· != '=') with
  | _ :: value => (a.takeWhile (· != '='), some value)
  | [] => (a, none)

/-- Variables in the order of their names. -/
def sortedBindings : Sh (List (Octets × Variable)) := do
  return (← get).bindings.mergeSort fun a b => byBytes a.1 b.1

def bindingText (before : Octets) (name : Octets) (v : Variable) : Octets :=
  before ++ name ++ ((v.value.map fun value => '=' :: singleQuoted value).getD []) ++ ['\n']

/-- Marks variables, some of which get a value; without any, those that are marked are shown. -/
def markCommand (title : String) (isMarked : Variable → Bool) (mark : Octets → Sh Unit)
    (args : List Octets) : Sh Nat := do
  let (given, args) ← options ['p'] [] args
  if !given.isEmpty || args.isEmpty then
    let shown := (← sortedBindings).filter fun (_, v) => isMarked v
    return ← print (shown.flatMap fun (name, v) => bindingText (title.toList ++ [' ']) name v)
  for a in args do
    let (name, value) := nameAndValue a
    Sh.checkName name
    match value with
    | some value => Sh.assign name value
    | none => pure ()
    mark name
  return 0

def fix (name : Octets) : Sh Unit := do
  let old := ((← get).bindings.lookup name).getD ⟨none, false, false⟩
  Sh.bind name (some { old with fixed := true })

def localCommand (args : List Octets) : Sh Nat := do
  if (← get).calls = 0 then Sh.fail "not in a function".toList
  for a in args do
    let (name, value) := nameAndValue a
    Sh.checkName name
    Sh.makeLocal name
    match value with
    | some value => Sh.assign name value
    | none => pure ()
  return 0

def unsetCommand (args : List Octets) : Sh Nat := do
  let (given, args) ← options ['v', 'f'] [] args
  let functions := (given.getLast?).any (·.1 == 'f')
  for name in args do
    if functions then
      modify fun s => { s with functions := s.functions.filter (·.1 != name) }
    else
      Sh.checkName name
      Sh.unset name
  return 0

/-- The options of a shell: their letters and their names. -/
def shellOptions : List (Char × String) := [('e', "errexit"), ('f', "noglob"), ('I', "ignoreeof"),
  ('i', "interactive"), ('m', "monitor"), ('n', "noexec"), ('s', "stdin"), ('x', "xtrace"),
  ('v', "verbose"), ('V', "vi"), ('E', "emacs"), ('C', "noclobber"), ('a', "allexport"),
  ('b', "notify"), ('u', "nounset"), ('p', "privileged")]

/-- Options that have only a name stand for characters that are no letters of options. -/
def namedOptions : List (Char × String) := [('\x01', "nolog"), ('\x02', "debug")]

def setOption (letter : Char) (on : Bool) : Sh Unit := do
  if !(shellOptions ++ namedOptions).any (·.1 == letter) then
    Sh.fail ("Illegal option -".toList ++ [letter])
  modify fun s =>
    let others := s.options.filter (· != letter)
    { s with options := if on then
        (((shellOptions ++ namedOptions).map (·.1)).filter fun c => c == letter || others.contains c)
      else others }

def setNamedOption (name : Octets) (on : Bool) : Sh Unit := do
  match (shellOptions ++ namedOptions).find? fun (_, n) => n.toList == name with
  | some (letter, _) => setOption letter on
  | none => Sh.fail ("Illegal option ".toList ++ (if on then '-' else '+') :: "o ".toList ++ name)

def showOptions (on : Bool) : Sh Unit := do
  let s ← get
  let lines := (shellOptions ++ namedOptions).flatMap fun (letter, name) =>
    let isSet := s.options.contains letter
    if on then
      name.toList ++ List.replicate (16 - name.length) ' ' ++ (if isSet then "on\n" else "off\n").toList
    else "set ".toList ++ (if isSet then "-o " else "+o ").toList ++ name.toList ++ ['\n']
  let _ ← print ((if on then "Current option settings\n".toList else []) ++ lines)

/-- Options in front of arguments are switched on or off; the value is the rest, if there is any that
counts. -/
def switchOptions : Nat → List Octets → Sh (Option (List Octets))
  | 0, _ => return none
  | fuel + 1, args => do
    match args with
    | ['-', '-'] :: rest => return some rest
    | ['-'] :: rest =>
      setOption 'x' false
      setOption 'v' false
      if rest.isEmpty then return none else return some rest
    | (sign :: letters) :: rest =>
      if sign != '-' && sign != '+' then return some args
      let on := sign == '-'
      let mut rest := rest
      for letter in letters do
        if letter == 'o' then
          match rest with
          | name :: others =>
            setNamedOption name on
            rest := others
          | [] => showOptions on
        else setOption letter on
      switchOptions fuel rest
    | [] :: _ => return some args
    | [] => return none

def setCommand (args : List Octets) : Sh Nat := do
  if args.isEmpty then
    let shown := (← sortedBindings).filter fun (_, v) => v.value.isSome
    return ← print (shown.flatMap fun (name, v) => bindingText [] name v)
  match ← switchOptions (args.length + 1) args with
  | some arguments => modify fun s => { s with arguments, optionAt := 0 }
  | none => pure ()
  return 0

def shiftCommand (args : List Octets) : Sh Nat := do
  let n ← match args with
    | s :: _ => wholeNumber s
    | [] => pure 1
  let s ← get
  if s.arguments.length < n then Sh.fail "can't shift that many".toList
  set { s with arguments := s.arguments.drop n, optionAt := 0 }
  return 0

/-! ### Reading -/

/-- The characters of the next line, each with whether a backslash hides it, and whether the line has
an end. -/
def readLine (raw : Bool) : Sh (Marked × Bool) :=
  let turn (s : List (Char × Bool) × Bool) :
      Routine ((List (Char × Bool) × Bool) ⊕ (List (Char × Bool) × Bool)) := do
    let (line, hidden) := s
    match ← Routine.ask (.read 0 1) with
    | .error _ | .ok [] => return .inr (line, false)
    | .ok (c :: _) =>
      if hidden then return .inl (if c = '\n' then line else (c, true) :: line, false)
      else if c = '\\' && !raw then return .inl (line, true)
      else if c = '\n' then return .inr (line, true)
      else return .inl ((c, false) :: line, false)
  do
    let (line, full) ← liftM (Routine.repeated turn (fun (line, _) => (line, false))
      Routine.manyTurns ([], false))
    return (line.reverse.filter fun (c, _) => c != '\x00', full)

/-- What follows a field: blanks around at most one other separator. -/
def afterField (isSeparator : Char × Bool → Bool) (s : Marked) : Marked :=
  let blank (c : Char × Bool) : Bool := isSeparator c && isBlankSeparator c.1
  match s.dropWhile blank with
  | c :: cs => if isSeparator c then cs.dropWhile blank else c :: cs
  | [] => []

/-- Cuts a line into so many fields at its separators; the last takes what is left. -/
def lineFields (isSeparator : Char × Bool → Bool) : Nat → Marked → List Marked
  | 0, _ => []
  | 1, s =>
    let blank (c : Char × Bool) : Bool := isSeparator c && isBlankSeparator c.1
    let whole := (s.reverse.dropWhile blank).reverse
    let field := s.takeWhile (!isSeparator ·)
    [if (afterField isSeparator (s.drop field.length)).isEmpty then field else whole]
  | n + 1, s =>
    let field := s.takeWhile (!isSeparator ·)
    field :: lineFields isSeparator n (afterField isSeparator (s.drop field.length))

def readCommand (args : List Octets) : Sh Nat := do
  let (given, names) ← options ['r'] ['p'] args
  if names.isEmpty then Sh.fail "arg count".toList
  let (line, full) ← readLine (given.any (·.1 == 'r'))
  let separators ← Sh.separators
  let isSeparator (c : Char × Bool) : Bool := !c.2 && separators.contains c.1
  let line := line.dropWhile fun c => isSeparator c && isBlankSeparator c.1
  for (name, value) in names.zip (lineFields isSeparator names.length line) do
    Sh.checkName name
    Sh.assign name (value.map (·.1))
  return if full then 0 else 1

/-! ### Directories -/

/-- The parts of a path, where going up is undone. -/
def normalPath (place path : Octets) : Octets :=
  let cut (s : Octets) : List Octets := (s.splitBy fun a b => a != '/' && b != '/').filter (· != ['/'])
  let steps := if path.head? = some '/' then cut path else cut place ++ cut path
  let doubled := match if path.head? = some '/' then path else place with
    | '/' :: '/' :: c => c.head? != some '/'
    | _ => false
  let parts := steps.foldl (fun parts step =>
    if step.all (· == '/') || step = ['.'] then parts
    else if step = ['.', '.'] then parts.dropLast
    else parts ++ [step]) ([] : List Octets)
  let path := parts.flatMap ('/' :: ·)
  let path := if path.isEmpty then ['/'] else path
  if doubled then '/' :: path else path

def placeName : Octets := "PWD".toList

def oldPlaceName : Octets := "OLDPWD".toList

/-- The session is in another directory. -/
def setPlace (place : Octets) : Sh Unit := do
  let old := (← get).place
  Sh.assign oldPlaceName old
  Sh.export_ oldPlaceName
  modify fun s => { s with place }
  Sh.assign placeName place
  Sh.export_ placeName

def enter (physical : Bool) (path : Octets) : Sh Bool := do
  let place := normalPath (← get).place path
  match ← Sh.ask (.enter (if physical then path else place)) with
  | .ok () =>
    let reached ← if physical then Sh.workingPlace else pure place
    setPlace reached
    return true
  | .error _ => return false

/-- A path cut at colons. -/
def colonCut (s : Octets) : List Octets :=
  s.foldr (fun c parts =>
    if c = ':' then [] :: parts
    else match parts with
      | first :: rest => (c :: first) :: rest
      | [] => [[c]]) [[]]

def underDirectory (directory name : Octets) : Octets :=
  if directory.isEmpty then name else directory ++ '/' :: name

def cdCommand (args : List Octets) : Sh Nat := do
  let (given, args) ← options ['L', 'P'] [] args
  let physical := (given.getLast?).any (·.1 == 'P')
  let (path, shows) ← match args with
    | [] => do pure ((← Sh.valueOf? "HOME".toList).getD [], false)
    | ['-'] :: _ => do pure ((← Sh.valueOf? oldPlaceName).getD [], true)
    | path :: _ => pure (path, false)
  let isFixed := path.head? = some '/' || path = ['.'] || path = ['.', '.'] ||
    ['.', '/'].isPrefixOf path || ['.', '.', '/'].isPrefixOf path
  let path := if path.isEmpty then ['.'] else path
  let mut chosen := path
  let mut shows := shows
  if !isFixed then
    if let some search ← Sh.valueOf? "CDPATH".toList then
      for directory in colonCut search do
        let candidate := underDirectory directory path
        match ← Sh.ask (.status candidate true) with
        | .ok status =>
          if status.isDirectory then
            chosen := candidate
            shows := shows || !directory.isEmpty
            break
        | .error _ => pure ()
  if ← enter physical chosen then
    if shows then print ((← get).place ++ ['\n']) else return 0
  else Sh.fail ("can't cd to ".toList ++ path)

def pwdCommand (args : List Octets) : Sh Nat := do
  let (given, _) ← options ['L', 'P'] [] args
  if (given.getLast?).any (·.1 == 'P') then print ((← Sh.workingPlace) ++ ['\n'])
  else print ((← get).place ++ ['\n'])

/-! ### Modes -/

/-- A mode in octal digits, at least so many. -/
def octalText (width n : Nat) : Octets :=
  let ds := Nat.toDigits 8 n
  List.replicate (width - ds.length) '0' ++ ds

/-- The bits of some permissions for some users. -/
def modeBits (users permissions : Octets) : Nat :=
  let users : Octets := if users.isEmpty || users.contains 'a' then ['u', 'g', 'o'] else users
  let bit (c : Char) : Nat := match c with
    | 'r' => 4
    | 'w' => 2
    | 'x' | 'X' => 1
    | _ => 0
  let bits := permissions.foldl (fun n c => n ||| bit c) 0
  users.foldl (fun n c => n ||| match c with
    | 'u' => bits * 64
    | 'g' => bits * 8
    | _ => bits) 0

/-- A mode after a change that is given in letters, such as `u+x`. -/
def changedMode (mode : Nat) (change : Octets) : Option Nat :=
  let users := change.takeWhile fun c => "ugoa".toList.contains c
  match change.drop users.length with
  | op :: permissions =>
    if !permissions.all fun c => "rwxXst".toList.contains c then none
    else
      let bits := modeBits users permissions
      match op with
      | '+' => some (mode ||| bits)
      | '-' => some (mode &&& (0o7777 ^^^ bits))
      | '=' => some ((mode &&& (0o7777 ^^^ modeBits users ['r', 'w', 'x'])) ||| bits)
      | _ => none
  | [] => none

/-- A mode after changes that are divided by commas, or as octal digits give it. -/
def modeOf? (mode : Nat) (text : Octets) : Option Nat :=
  if !text.isEmpty && text.all isOctalDigit then some (valueInBase 8 text)
  else
    let parts := text.foldr (fun c parts =>
      if c = ',' then [] :: parts
      else match parts with
        | first :: rest => (c :: first) :: rest
        | [] => [[c]]) ([[]] : List Octets)
    parts.foldlM changedMode mode

def umaskCommand (args : List Octets) : Sh Nat := do
  let (given, args) ← options ['S'] [] args
  match args with
  | [] =>
    let mask ← Sh.mask none
    if given.isEmpty then print (octalText 4 mask ++ ['\n'])
    else
      let letters (n : Nat) : Octets :=
        (if n &&& 4 != 0 then [] else ['r']) ++ (if n &&& 2 != 0 then [] else ['w']) ++
          (if n &&& 1 != 0 then [] else ['x'])
      print ("u=".toList ++ letters (mask / 64) ++ ",g=".toList ++ letters (mask / 8) ++
        ",o=".toList ++ letters mask ++ ['\n'])
  | text :: _ =>
    if text.head?.any Char.isDigit then
      if !text.all isOctalDigit || 0o777 < valueInBase 8 text then
        Sh.fail ("Illegal number: ".toList ++ text)
      let _ ← Sh.mask (some (valueInBase 8 text))
      return 0
    else
      let mask ← Sh.mask none
      match modeOf? (0o777 ^^^ mask) text with
      | some mode =>
        let _ ← Sh.mask (some (0o777 ^^^ (mode &&& 0o777)))
        return 0
      | none => Sh.fail ("Illegal mode: ".toList ++ text)

/-! ### Aliases -/

def aliasText (name value : Octets) : Octets := name ++ '=' :: singleQuoted value ++ ['\n']

def aliasCommand (args : List Octets) : Sh Nat := do
  if args.isEmpty then
    let aliases := (← get).aliases.mergeSort fun a b => byBytes a.1 b.1
    return ← print (aliases.flatMap fun (name, value) => aliasText name value)
  let mut status := 0
  for a in args do
    match nameAndValue (a.drop 1) with
    | (_, some value) =>
      let name := a.take (a.length - value.length - 1)
      modify fun s => { s with aliases := (name, value) :: s.aliases.filter (·.1 != name) }
    | (_, none) =>
      match (← get).aliases.lookup a with
      | some value => let _ ← print (aliasText a value)
      | none =>
        let _ ← Sh.put 2 ("alias: ".toList ++ a ++ " not found\n".toList)
        status := 1
  return status

def unaliasCommand (args : List Octets) : Sh Nat := do
  let (given, args) ← options ['a'] [] args
  if !given.isEmpty then modify fun s => { s with aliases := [] }
  let mut status := 0
  for name in args do
    if ((← get).aliases.lookup name).isNone then
      let _ ← Sh.put 2 ("unalias: ".toList ++ name ++ " not found\n".toList)
      status := 1
    modify fun s => { s with aliases := s.aliases.filter (·.1 != name) }
  return status

/-! ### Jobs -/

/-- Remembers how a child has ended. -/
def recordEnding (number : Nat) (e : Process.Ending) : Sh Unit :=
  modify fun s => { s with jobs := s.jobs.map fun job =>
    if job.number = number then { job with ending := some e } else job }

/-- The end of a job is known to whoever has waited for it. -/
def recordWait (number : Nat) : Sh Unit :=
  modify fun s => { s with jobs := s.jobs.map fun job =>
    if job.number = number then { job with waited := true } else job }

/-- The least number that a new job can have; a job that is over and has been waited for is forgotten
if it has that number. -/
def freeSlot : Sh Nat := do
  let jobs := (← get).jobs
  let isTaken (slot : Nat) : Bool := jobs.any fun job => job.slot = slot && !(job.ending.isSome && job.waited)
  let slot := (((List.range (jobs.length + 1)).map (· + 1)).find? (!isTaken ·)).getD 1
  modify fun s => { s with jobs := s.jobs.filter (·.slot != slot) }
  return slot

/-- Notes the end of jobs that are over. -/
def collectEndings : Sh Unit := do
  for job in (← get).jobs do
    if job.ending.isNone then
      match ← Sh.ask (.await (some job.number) .never) with
      | some (_, e) => recordEnding job.number e
      | none => pure ()

/-- How a job is, in lists. -/
def jobState (job : Job) : Octets :=
  match job.ending with
  | none => "Running".toList
  | some (.exited 0) => "Done".toList
  | some (.exited code) => "Done(".toList ++ digits code ++ [')']
  | some (.signalled signal) => (Process.signalText signal).toList

/-- The columns of a list of jobs in front of the commands. -/
def jobWidth : Nat := 33

/-- Shows the jobs, the last one first; those that are over are forgotten. -/
def jobsCommand (args : List Octets) : Sh Nat := do
  let (given, _) ← options ['l', 'p'] [] args
  collectEndings
  let jobs := (← get).jobs.reverse
  modify fun s => { s with jobs := s.jobs.filter (·.ending.isNone) }
  if given.any (·.1 == 'p') then return ← print (jobs.flatMap fun job => digits job.number ++ ['\n'])
  print ((jobs.zipIdx).flatMap fun (job, n) =>
    let sign : Octets := match ((jobs.take n).filter (·.ending.isNone)).length with
      | 0 => ['+', ' ']
      | 1 => ['-', ' ']
      | _ => [' ', ' ']
    let number := if given.isEmpty then [] else digits job.number ++ [' ']
    let text := '[' :: digits job.slot ++ [']', ' '] ++ sign ++ number ++ jobState job
    text ++ List.replicate (max 1 (jobWidth - text.length)) ' ' ++
      (List.replicate (job.parts - 1) [' ', '|', ' ']).flatten ++ ['\n'])

/-! ### Waiting -/

/-- Says which signal has ended a child. -/
def sayEnding (e : Process.Ending) : Sh Unit := do
  match e with
  | .signalled signal =>
    if signal != 2 && signal != Process.brokenPipe then
      let _ ← Sh.put 2 ((Process.signalText signal).toList ++ ['\n'])
  | .exited _ => pure ()

/-- Waits for one child, until a trapped signal comes. -/
def waitFor (number : Nat) : Sh (Option Nat) := do
  match ← Sh.ask (.await (some number) .untilSignal) with
  | some (_, e) =>
    recordEnding number e
    sayEnding e
    return some e.status
  | none => return none

def waitAll : Nat → Sh Bool
  | 0 => return true
  | fuel + 1 => do
    match (← get).jobs.find? (·.ending.isNone) with
    | none =>
      modify fun s => { s with jobs := s.jobs.map fun job => { job with waited := true } }
      return true
    | some job =>
      match ← Sh.ask (.await (some job.number) .untilSignal) with
      | some (_, e) =>
        recordEnding job.number e
        waitAll fuel
      | none => return false

/-- The status of a wait that a signal has interrupted. -/
def interrupted : Sh Nat := return 128 + (← Sh.signals).getLastD 0

def waitCommand (args : List Octets) : Sh Nat := do
  let (_, args) ← options [] [] args
  if args.isEmpty then
    if ← waitAll ((← get).jobs.length + 1) then return 0 else return ← interrupted
  let mut status := 127
  for a in args do
    let number ← match a with
      | '%' :: _ => jobNumber? a
      | s => do pure (some (← wholeNumber s))
    match (← get).jobs.find? fun job => number == some job.number with
    | none => status := 127
    | some job =>
      match job.ending with
      | some e => status := e.status
      | none =>
        match ← waitFor job.number with
        | some ended => status := ended
        | none => return ← interrupted
      recordWait job.number
  return status

/-! ### Options of scripts -/

/-- The next option of a script: the letter that is found, what it takes, and where it goes on. -/
def getoptsCommand (args : List Octets) : Sh Nat := do
  match args with
  | known :: name :: given =>
    let s ← get
    let given := if given.isEmpty then s.arguments else given
    let index ← do
      match (← Sh.valueOf? Sh.optionIndexName).bind signedNumber? with
      | some n => pure (if n < 1 then 1 else n.toNat)
      | none => pure 1
    let quiet := known.head? = some ':'
    let finish (letter : Octets) (value : Option Octets) (index at_ : Nat) (status : Nat) :
        Sh Nat := do
      match value with
      | some value => Sh.assign "OPTARG".toList value
      | none => Sh.bind "OPTARG".toList none
      Sh.assign Sh.optionIndexName (digits index)
      modify fun s => { s with optionAt := at_ }
      Sh.checkName name
      Sh.assign name letter
      return status
    let at_ := if s.optionAt = 0 then 1 else s.optionAt
    match given[index - 1]? with
    | none => finish ['?'] none index 0 1
    | some word =>
      if s.optionAt = 0 && (word.head? != some '-' || word.length < 2) then
        finish ['?'] none index 0 1
      else if s.optionAt = 0 && word = ['-', '-'] then finish ['?'] none (index + 1) 0 1
      else match word.drop at_ with
        | [] => finish ['?'] none (index + 1) 0 1
        | letter :: rest =>
          let (next, nextAt) := if rest.isEmpty then (index + 1, 0) else (index, at_ + 1)
          match known.dropWhile (· != letter) with
          | _ :: after =>
            if letter = ':' then finish ['?'] (if quiet then some [letter] else none) next nextAt 0
            else if after.head? = some ':' then
              if !rest.isEmpty then finish [letter] (some rest) (index + 1) 0 0
              else match given[index]? with
                | some value => finish [letter] (some value) (index + 2) 0 0
                | none =>
                  if quiet then finish [':'] (some [letter]) (index + 1) 0 0
                  else
                    let _ ← Sh.put 2 ("No arg for -".toList ++ letter :: " option\n".toList)
                    finish ['?'] none (index + 1) 0 0
            else finish [letter] none next nextAt 0
          | [] =>
            if quiet then finish ['?'] (some [letter]) next nextAt 0
            else
              let _ ← Sh.put 2 ("Illegal option -".toList ++ [letter, '\n'])
              finish ['?'] none next nextAt 0
  | _ => Sh.fail "Usage: getopts optstring var [arg]".toList

/-! ### Leaving -/

/-- The number that a command is given, or another one. -/
def numberOr (usual : Nat) : List Octets → Sh Nat
  | [] => return usual
  | s :: _ => wholeNumber s

def exitCommand (args : List Octets) : Sh Nat := do
  let s ← get
  let status ← numberOr (s.trapStatus.getD s.status) args
  Sh.setStatus status
  Sh.jump .exit

def returnCommand (args : List Octets) : Sh Nat := do
  let status ← numberOr (← get).status args
  Sh.setStatus status
  Sh.jump .return_

/-- Leaves so many loops, at least one, and at most those that are being run. -/
def leaveCommand (again : Bool) (args : List Octets) : Sh Nat := do
  let n ← numberOr 1 args
  if n = 0 then Sh.fail ("Illegal number: ".toList ++ args.headD [])
  let loops := (← get).loops
  if loops = 0 then return 0
  Sh.setStatus 0
  Sh.jump (.leave (min n loops) again)

/-! ### The commands -/

def printfCommand (args : List Octets) : Sh Nat := do
  let (_, args) ← options [] [] args
  match args with
  | [] => Sh.fail "usage: printf format [arg ...]".toList
  | format :: args =>
    let (text, complaints, refused) := formatted format args
    for c in complaints do Sh.complain c
    let status ← print text
    match refused with
    | some text => Sh.fail text
    | none => return if complaints.isEmpty then status else 1

def testCommand (args : List Octets) : Sh Nat := conditionStatus args

def bracketCommand (args : List Octets) : Sh Nat := do
  if args.getLast? != some [']'] then Sh.fail "missing ]".toList
  conditionStatus args.dropLast

/-- Commands that need nothing but the session, and are not special. -/
def regular? (name : String) : Option (List Octets → Sh Nat) :=
  match name with
  | "true" => some fun _ => return 0
  | "false" => some fun _ => return 1
  | "echo" => some fun args => print (echoText args)
  | "printf" => some printfCommand
  | "test" => some testCommand
  | "[" => some bracketCommand
  | "kill" => some killCommand
  | "read" => some readCommand
  | "cd" | "chdir" => some cdCommand
  | "pwd" => some pwdCommand
  | "wait" => some waitCommand
  | "umask" => some umaskCommand
  | "alias" => some aliasCommand
  | "unalias" => some unaliasCommand
  | "getopts" => some getoptsCommand
  | "ulimit" => some fun _ => print "unlimited\n".toList
  | "jobs" => some jobsCommand
  | "fg" | "bg" => some fun _ => do
    if (← get).jobs.isEmpty then Sh.fail "No current job".toList
    else Sh.fail "job (null) not created under job control".toList
  | _ => none

/-- Commands that need nothing but the session, and keep the assignments in front of them. -/
def special? (name : String) : Option (List Octets → Sh Nat) :=
  match name with
  | ":" => some fun _ => return 0
  | "trap" => some trapCommand
  | "export" => some (markCommand "export" (·.exported) Sh.export_)
  | "readonly" => some (markCommand "readonly" (·.fixed) fix)
  | "local" => some localCommand
  | "unset" => some unsetCommand
  | "set" => some setCommand
  | "shift" => some shiftCommand
  | "times" => some fun _ => print "0m0.000000s 0m0.000000s\n0m0.000000s 0m0.000000s\n".toList
  | "exit" => some exitCommand
  | "return" => some returnCommand
  | "break" => some (leaveCommand false)
  | "continue" => some (leaveCommand true)
  | _ => none

/-- Special commands that run scripts or programs. -/
def specialRunners : List String := ["eval", "exec", "."]

/-- Other commands that do. -/
def regularRunners : List String := ["command", "hash", "type"]

def isSpecialCommand (name : Octets) : Bool :=
  let s := String.ofList name
  (special? s).isSome || specialRunners.contains s

def isBuiltin (name : Octets) : Bool :=
  let s := String.ofList name
  isSpecialCommand name || (regular? s).isSome || regularRunners.contains s

/-- Commands whose arguments can be assignments. -/
def takesAssignments (name : Octets) : Bool :=
  ["export", "readonly", "local", "alias"].contains (String.ofList name)

end DevServer.Shell
