import DevServer.Program.Output
import DevServer.Shell.Lookup

/-!
# Programs that run others

A command is looked for in the search path of its environment. Some programs become the command, and
some run it as a child and wait for it.
-/

namespace DevServer.Program

open Failure (Cause)
open Process (Request Routine Ending)
open Text (Octets)

/-- Where programs are looked for without a search path. -/
def plainSearch : Octets := "/bin:/usr/bin".toList

/-- Becomes a command; the value says why that failed. -/
def becoming (environment argv : List Octets) : Routine Cause :=
  let name := argv.headD []
  if Shell.isPath name then Shell.executeAt name argv environment
  else if name.isEmpty then return .notFound
  else Shell.executeIn argv environment .notFound
    (Shell.colonCut ((valueIn environment "PATH".toList).getD plainSearch))

def notRunStatus (c : Cause) : Nat := if c = .notFound then 127 else 126

/-- Becomes a command, or says why that failed, and ends. -/
def becomeOr (name : Octets) (what : Octets → Octets) (environment argv : List Octets) : Routine Nat := do
  let cause ← becoming environment argv
  complainOf name (what (argv.headD [])) cause
  return notRunStatus cause

/-- Waits for a child. -/
def awaited (number : Nat) : Routine Ending := do
  let ended : Option (Nat × Ending) ← Routine.ask (.await (some number) .untilOne)
  return (ended.map (·.2)).getD (.exited 127)

/-- Runs a command as a child; the value is its status. -/
def running (name : Octets) (environment argv : List Octets) : Routine Nat := do
  let number ← Routine.fork (becomeOr name inQuotes environment argv)
  return (← awaited number).status

/-! ### Time -/

/-- A length of time in microseconds: decimals and a unit. -/
def timeSpan? (s : Octets) : Option Nat :=
  let (digits, unit) := s.span fun c => c.isDigit || c == '.'
  let factor := match String.ofList unit with
    | "" | "s" => some 1000000
    | "m" => some 60000000
    | "h" => some 3600000000
    | "d" => some 86400000000
    | _ => none
  let whole := digits.takeWhile Char.isDigit
  let fraction := (digits.drop whole.length).drop 1
  if s = "infinity".toList || s = "inf".toList then some 1000000000000000
  else if digits.all (· == '.') || !fraction.all Char.isDigit then none
  else factor.map fun f =>
    Shell.valueInBase 10 whole * f + Shell.valueInBase 10 fraction * f / Nat.pow 10 fraction.length

def sleep (argv _ : List Octets) : Routine Nat := do
  let (name, args) := called argv
  (known "" "" []).parse 1 name args fun g => do
    if g.operands.isEmpty then return ← missing name "missing operand"
    match g.operands.find? fun a => (timeSpan? a).isNone with
    | some bad => missing name ("invalid time interval " ++ String.ofList (inQuotes bad))
    | none =>
      Routine.ask (.pause ((g.operands.filterMap timeSpan?).foldl (· + ·) 0))
      return 0

/-- How often a child is looked after that has to end in time, in microseconds. -/
def lookTime : Nat := 2000

/-- Signals that are passed on to a child. -/
def passedOn : List Nat := [1, 2, 3, 15]

/-- What is done about a child that takes too long. -/
structure Limit where
  /-- When the next signal is sent, if one is. -/
  due : Option Nat
  signal : Nat
  /-- How long after that the child is killed. -/
  patience : Option Nat
  passed : Nat
  late : Bool

def timeout (argv environment : List Octets) : Routine Nat := do
  let (name, args) := called argv
  (knownInFront "fpv" "ks" [("foreground", 'f'), ("kill-after", 'k'), ("preserve-status", 'p'),
    ("signal", 's'), ("verbose", 'v')]).parse 125 name args fun g => do
    let signal := ((g.last? 's').bind Shell.signalOf?).getD Process.term
    let patience := (g.last? 'k').bind timeSpan?
    match g.operands with
    | [] | [_] =>
      let _ ← missing name "missing operand"
      return 125
    | time :: command =>
      match timeSpan? time with
      | none =>
        let _ ← missing name ("invalid time interval " ++ String.ofList (inQuotes time))
        return 125
      | some span =>
        if !g.has 'f' then Routine.ask .leadGroup
        for n in passedOn do Routine.ask (.handle n .caught)
        let child ← Routine.fork (becomeOr name (fun w => "failed to run command ".toList ++ inQuotes w)
          environment command)
        let own : Nat ← Routine.ask .ownNumber
        let send (n : Nat) : Routine Unit := do
          let _ ← Routine.ask (.signal child n)
          if !g.has 'f' && n != Process.kill then
            Routine.ask (.handle n .ignored)
            let _ ← Routine.ask (.signal 0 n)
        let (ending, limit) ← Routine.repeated (fun (l : Limit) => do
          let ended : Option (Nat × Ending) ← Routine.ask (.await (some child) .never)
          match ended with
          | some (_, e) => return .inr (e, l)
          | none =>
            let come : List Nat ← Routine.ask .arrived
            match come with
            | n :: _ =>
              send n
              return .inl { l with late := false, due := none }
            | [] =>
              if l.due.any (· ≤ l.passed) then
                send l.signal
                return .inl { l with
                  due := l.patience.map (l.passed + ·), signal := Process.kill, patience := none,
                  late := true }
              Routine.ask (.pause lookTime)
              return .inl { l with passed := l.passed + lookTime }) (fun l => (.exited 125, l))
          Routine.manyTurns ⟨if span = 0 then none else some span, signal, patience, 0, false⟩
        match ending with
        | .exited code => return if limit.late && !g.has 'p' then 124 else code
        | .signalled n =>
          if limit.late && n != Process.kill then
            return if g.has 'p' then 128 + n else 124
          Routine.ask (.handle n .usual)
          let _ ← Routine.ask (.signal own n)
          return 128 + n

/-! ### Surroundings -/

/-- An environment with a name set. -/
def withValue (environment : List Octets) (name entry : Octets) : List Octets :=
  if (valueIn environment name).isSome then
    environment.map fun e => if (name ++ ['=']).isPrefixOf e then entry else e
  else environment ++ [entry]

def env (argv environment : List Octets) : Routine Nat := do
  let (name, args) := called argv
  (knownInFront "i0v" "uCS" [("ignore-environment", 'i'), ("null", '0'), ("unset", 'u'),
    ("chdir", 'C'), ("split-string", 'S')]).parse 125 name args fun g => do
    let (clears, operands) := match g.operands with
      | ['-'] :: rest => (true, rest)
      | rest => (g.has 'i', rest)
    let split := (g.all 'S').flatMap fun s => s.splitBy (fun a b => Shell.isBlank a == Shell.isBlank b) |>.filter
      fun w => !(w.headD ' ' |> Shell.isBlank)
    let operands := split ++ operands
    let start := if clears then [] else environment.filter fun e =>
      !(g.all 'u').any fun n => (n ++ ['=']).isPrefixOf e
    let settings := operands.takeWhile (·.contains '=')
    let given := settings.foldl (fun env s => withValue env (s.takeWhile (· != '=')) s) start
    if let some directory := g.last? 'C' then
      match ← Routine.ask (.enter directory) with
      | .ok () => pure ()
      | .error cause =>
        complainOf name ("cannot change directory to ".toList ++ inQuotes directory) cause
        return 125
    match operands.drop settings.length with
    | [] =>
      let finish : Octets := if g.has '0' then ['\x00'] else ['\n']
      print name (given.flatMap (· ++ finish))
    | command => becomeOr name inQuotes given command

/-- A program that becomes its command after something is done. -/
def becomingAfter (k : Known) (failure : Nat) (first : Routine Unit) (argv environment : List Octets) :
    Routine Nat := do
  let (name, args) := called argv
  k.parse failure name args fun g => do
    if g.operands.isEmpty then
      let _ ← missing name "missing operand"
      return failure
    first
    becomeOr name (fun w => "failed to run command ".toList ++ inQuotes w) environment g.operands

def nohup : List Octets → List Octets → Routine Nat :=
  becomingAfter (knownInFront "" "" []) 125 (Routine.ask (.handle 1 .ignored))

def nice (argv environment : List Octets) : Routine Nat := do
  let (name, args) := called argv
  if args.isEmpty then print name "0\n".toList
  else becomingAfter (knownInFront "0123456789" "n" [("adjustment", 'n')]) 125 (pure ()) argv environment

def setsid : List Octets → List Octets → Routine Nat :=
  becomingAfter (knownInFront "cfw" "" [("ctty", 'c'), ("fork", 'f'), ("wait", 'w')]) 1
    (Routine.ask .leadGroup)

def stdbuf : List Octets → List Octets → Routine Nat :=
  becomingAfter (knownInFront "" "ioe" [("input", 'i'), ("output", 'o'), ("error", 'e')]) 125 (pure ())

/-! ### Arguments from the input -/

/-- Words that are cut at blanks; quotes and backslashes hide them. -/
def inputWords (s : Octets) : List Octets :=
  let finish (words : List Octets) (word : Option Octets) : List Octets :=
    match word with
    | some w => w.reverse :: words
    | none => words
  let (words, word, _, _) := s.foldl (fun (words, word, quote, hidden) c =>
    let add (quote : Option Char) : List Octets × Option Octets × Option Char × Bool :=
      (words, some (c :: word.getD []), quote, false)
    if hidden then add quote
    else match quote with
      | some q => if c = q then (words, some (word.getD []), none, false) else add quote
      | none =>
        if c = '\'' || c = '"' then (words, some (word.getD []), some c, false)
        else if c = '\\' then (words, some (word.getD []), none, true)
        else if Shell.isBlank c then (finish words word, none, none, false)
        else add none) (([] : List Octets), (none : Option Octets), (none : Option Char), false)
  (finish words word).reverse

/-- Lists of at most so many members. -/
def chunks {A : Type} (n : Nat) : Nat → List A → List (List A)
  | 0, _ => []
  | _ + 1, [] => []
  | fuel + 1, xs => xs.take n :: chunks n fuel (xs.drop n)

/-- A word with another text in the place of a mark. -/
def withMark (mark text : Octets) : Nat → Octets → Octets
  | 0, s => s
  | fuel + 1, s =>
    if mark.isEmpty then s
    else if mark.isPrefixOf s then text ++ withMark mark text fuel (s.drop mark.length)
    else match s with
      | c :: cs => c :: withMark mark text fuel cs
      | [] => []

/-- A text cut at a character; nothing comes behind the last one. -/
def cutAt (c : Char) (s : Octets) : List Octets :=
  let parts := s.foldr (fun d parts =>
    if d = c then [] :: parts
    else match parts with
      | first :: rest => (d :: first) :: rest
      | [] => [[d]]) ([[]] : List Octets)
  if parts.getLast? = some [] then parts.dropLast else parts

def xargs (argv environment : List Octets) : Routine Nat := do
  let (name, args) := called argv
  (knownInFront "0rtpx" "nILPsdEa" [("null", '0'), ("no-run-if-empty", 'r'), ("max-args", 'n'),
    ("max-lines", 'L'), ("max-procs", 'P'), ("replace", 'I'), ("verbose", 't'),
    ("delimiter", 'd')]).parse 1 name args fun g => do
    let text ← match g.last? 'a' with
      | some path => Routine.readFile path
      | none => Routine.readAll 0
    let text : Octets := text.toOption.getD []
    let delimiter : Option Char := ((g.last? 'd').map fun d =>
      ((Shell.escaped (d.length + 1) d).1.head?).getD '\n')
    let words : List Octets :=
      if g.has '0' then cutAt '\x00' text
      else match delimiter with
        | some c => cutAt c text
        | none => if g.has 'I' then (cutAt '\n' text).map (·.dropWhile Shell.isBlank) else inputWords text
    let command : List Octets := if g.operands.isEmpty then ["echo".toList] else g.operands
    let calls : List (List Octets) := match g.last? 'I' with
      | some mark => (words.filter (!·.isEmpty)).map fun w =>
          command.map fun a => withMark mark w (a.length + 1) a
      | none =>
        let groups : List (List Octets) := match g.last? 'n', g.last? 'L' with
          | some n, _ => chunks (max 1 (Shell.valueInBase 10 n)) (words.length + 1) words
          | none, some n =>
            (chunks (max 1 (Shell.valueInBase 10 n)) (text.length + 1)
              ((cutAt '\n' text).filter (!·.isEmpty))).map fun ls => ls.flatMap inputWords
          | none, none => if words.isEmpty then [] else [words]
        if groups.isEmpty && !g.has 'r' then [command] else groups.map (command ++ ·)
    let mut status := 0
    for call in calls do
      if g.has 't' then
        let _ ← Routine.writeAll 2 (line ([' '].intercalate call))
      let number ← Routine.fork do
        let _ ← Routine.ask (.close 0)
        let _ ← Routine.ask (.open "/dev/null".toList .reading)
        becomeOr name id environment call
      match ← awaited number with
      | .exited 0 => pure ()
      | .exited 255 =>
        complain name (call.headD [] ++ ": exited with status 255; aborting".toList)
        return 124
      | .exited 126 => return 126
      | .exited 127 => return 127
      | .exited _ => status := 123
      | .signalled n =>
        complain name (call.headD [] ++ ": terminated by signal ".toList ++ Nat.toDigits 10 n)
        return 125
    return status

/-! ### Finding programs -/

def which (argv environment : List Octets) : Routine Nat := do
  let (name, args) := called argv
  (known "as" "" []).parse 2 name args fun g => do
    let search := Shell.colonCut ((valueIn environment "PATH".toList).getD plainSearch)
    let mut status := if g.operands.isEmpty then 1 else 0
    for n in g.operands do
      let paths := if Shell.isPath n then [n] else search.map fun d => Shell.underDirectory d n
      let found ← paths.filterM fun p => do
        let s : Except Cause Process.Status ← Routine.ask (.status p true)
        return s.toOption.any fun s => s.isRegular && s.mode &&& 0o111 != 0
      match found with
      | [] => status := 1
      | first :: _ =>
        let _ ← print name ((if g.has 'a' then found else [first]).flatMap line)
    return status

end DevServer.Program
