import DevServer.Program.Basic
import DevServer.Shell.Builtin

/-!
# Programs that write

They make their output from their arguments and the environment alone.
-/

namespace DevServer.Program

open Process (Request Routine)
open Text (Octets)

/-- The name that a program was called by, and its arguments. -/
def called (argv : List Octets) : Octets × List Octets := (argv.headD [], argv.drop 1)

/-- A program that only has a status. -/
def constant (status : Nat) (_ _ : List Octets) : Routine Nat := return status

def echo (argv _ : List Octets) : Routine Nat := print (called argv).1 (Shell.plainEchoText (called argv).2)

/-- Writes lines again and again, many at a time, until that fails. -/
def yes (argv _ : List Octets) : Routine Nat := do
  let (name, args) := called argv
  let args := if args.head? = some ['-', '-'] then args.drop 1 else args
  let text := line (if args.isEmpty then ['y'] else [' '].intercalate args)
  let many := (List.replicate (8192 / text.length + 1) text).flatten
  Routine.repeated (fun _ => do
    match ← Routine.writeAll 1 many with
    | .ok () => return .inl ()
    | .error cause =>
      complainOf name "standard output".toList cause
      return .inr 1) (fun _ => 1) Routine.manyTurns ()

/-! ### Sequences -/

/-- A decimal number: its sign, its digits and how many of them are behind the point. -/
structure Decimal where
  value : Int
  places : Nat
  /-- How many characters it was written with before its point. -/
  width : Nat
  deriving DecidableEq, Repr

def Decimal.of? (s : Octets) : Option Decimal :=
  let (negative, body) := match s with
    | '-' :: ds => (true, ds)
    | '+' :: ds => (false, ds)
    | ds => (false, ds)
  let whole := body.takeWhile Char.isDigit
  let part := (body.drop whole.length).drop 1
  let good := (body.drop whole.length).isEmpty || body[whole.length]? = some '.'
  if !good || (whole ++ part).isEmpty || !part.all Char.isDigit then none
  else
    let n : Int := Shell.valueInBase 10 (whole ++ part)
    some ⟨if negative then -n else n, part.length, whole.length + (if negative then 1 else 0)⟩

/-- The value in units of a place. -/
def Decimal.scaled (d : Decimal) (places : Nat) : Int :=
  d.value * Int.ofNat (Nat.pow 10 (places - d.places))

/-- A number of units of a place as a text of at least some width. -/
def decimalText (places width : Nat) (n : Int) : Octets :=
  let ds := Nat.toDigits 10 n.natAbs
  let ds := List.replicate (places + 1 - ds.length) '0' ++ ds
  let whole := ds.take (ds.length - places)
  let text := if places = 0 then whole else whole ++ '.' :: ds.drop (ds.length - places)
  let front : Octets := if n < 0 then ['-'] else []
  front ++ List.replicate (width - front.length - text.length) '0' ++ text

/-- The numbers from one to another, so many of them. -/
def steps (first step : Int) (count : Nat) : List Int :=
  (List.range count).map fun k => first + step * Int.ofNat k

def seqKnown : Known :=
  knownInFront "w" "sf" [("equal-width", 'w'), ("separator", 's'), ("format", 'f')]

/-- Numbers that look like options are operands. -/
def seqArguments (args : List Octets) : List Octets :=
  match args.findIdx? fun a => (Decimal.of? a).isSome with
  | some n => args.take n ++ ['-', '-'] :: args.drop n
  | none => args

/-- Sequences are written in pieces of so many numbers. -/
def seqPiece : Nat := 512

def writeSequence (name separator : Octets) (first step : Int) (text : Int → Octets) (count : Nat) :
    Routine Nat :=
  Routine.repeated (fun (from_ : Nat) => do
    let n := min seqPiece (count - from_)
    if n = 0 then return .inr 0
    let numbers := steps (first + step * Int.ofNat from_) step n
    let body := separator.intercalate (numbers.map text)
    let tail := if from_ + n = count then ['\n'] else separator
    let status ← print name (body ++ tail)
    return if status = 0 then .inl (from_ + n) else .inr status) (fun _ => 0) (count + 1) 0

def seq (argv _ : List Octets) : Routine Nat := do
  let (name, args) := called argv
  seqKnown.parse 1 name (seqArguments args) fun g => do
    match g.operands.find? fun a => (Decimal.of? a).isNone with
    | some bad =>
      missing name ("invalid floating point argument: " ++ String.ofList (inQuotes bad))
    | none =>
      let unit : Decimal := ⟨1, 0, 1⟩
      let (first, step, last) ← match g.operands.filterMap Decimal.of? with
        | [last] => pure (unit, unit, last)
        | [first, last] => pure (first, unit, last)
        | [first, step, last] => pure (first, step, last)
        | [] => do return ← missing name "missing operand"
        | _ => do return ← missing name ("extra operand " ++ String.ofList (inQuotes (g.operands.getD 3 [])))
      let places := max first.places step.places
      let all := max places last.places
      let (a, d, z) := (first.scaled all, step.scaled all, last.scaled all)
      if d = 0 then
        return ← missing name
          ("invalid Zero increment value: " ++ String.ofList (inQuotes (g.operands.getD 1 [])))
      let count := (Int.fdiv (z - a) d + 1).toNat
      let shift := Int.ofNat (Nat.pow 10 (all - places))
      let extra := if places = 0 then 0 else places + 1
      let width := if g.has 'w' then max first.width last.width + extra else 0
      let text (n : Int) : Octets :=
        match g.last? 'f' with
        | some format => (Shell.formatted format [decimalText places 0 (Int.tdiv n shift)]).1
        | none => decimalText places width (Int.tdiv n shift)
      if count = 0 then return 0
      writeSequence name ((g.last? 's').getD ['\n']) a d text count

/-! ### The environment -/

/-- The value of a name in an environment. -/
def valueIn (environment : List Octets) (name : Octets) : Option Octets :=
  environment.findSome? fun entry =>
    if (name ++ ['=']).isPrefixOf entry then some (entry.drop (name.length + 1)) else none

def printenv (argv environment : List Octets) : Routine Nat := do
  let (name, args) := called argv
  (knownInFront "0" "" [("null", '0')]).parse 2 name args fun g => do
    let finish : Octets := if g.has '0' then ['\x00'] else ['\n']
    if g.operands.isEmpty then print name (environment.flatMap (· ++ finish))
    else
      let values := g.operands.map fun n => if n.contains '=' then none else valueIn environment n
      let status ← print name (values.flatMap fun v => (v.map (· ++ finish)).getD [])
      return if values.all (·.isSome) then status else 1

def pwd (argv _ : List Octets) : Routine Nat := do
  let place : Octets ← Routine.ask .place
  print (called argv).1 (line place)

/-! ### Names -/

/-- A path without slashes at its end. -/
def withoutSlashes (path : Octets) : Octets :=
  match (path.reverse.dropWhile (· == '/')).reverse with
  | [] => path.take 1
  | rest => rest

/-- The last name of a path. -/
def lastName (path : Octets) : Octets :=
  let path := withoutSlashes path
  if path = ['/'] then path else (path.reverse.takeWhile (· != '/')).reverse

/-- A path without its last name. -/
def upperPath (path : Octets) : Octets :=
  let path := withoutSlashes path
  if !path.contains '/' then ['.']
  else
    let above := (path.reverse.dropWhile (· != '/')).dropWhile (· == '/') |>.reverse
    if above.isEmpty then ['/'] else above

/-- A name without an ending that it has, unless that is all of it. -/
def withoutEnding (ending name : Octets) : Octets :=
  if !ending.isEmpty && ending.isSuffixOf name && ending != name then
    name.take (name.length - ending.length)
  else name

def basename (argv _ : List Octets) : Routine Nat := do
  let (name, args) := called argv
  (knownInFront "az" "s" [("multiple", 'a'), ("suffix", 's'), ("zero", 'z')]).parse 1 name args fun g => do
    let finish : Octets := if g.has 'z' then ['\x00'] else ['\n']
    match g.operands with
    | [] => missing name "missing operand"
    | path :: more =>
      if g.has 'a' || g.has 's' then
        print name (g.operands.flatMap fun p =>
          withoutEnding ((g.last? 's').getD []) (lastName p) ++ finish)
      else match more with
        | [] => print name (lastName path ++ finish)
        | [ending] => print name (withoutEnding ending (lastName path) ++ finish)
        | _ => missing name ("extra operand " ++ String.ofList (inQuotes (more.getD 1 [])))

def dirname (argv _ : List Octets) : Routine Nat := do
  let (name, args) := called argv
  (knownInFront "z" "" [("zero", 'z')]).parse 1 name args fun g => do
    let finish : Octets := if g.has 'z' then ['\x00'] else ['\n']
    if g.operands.isEmpty then missing name "missing operand"
    else print name (g.operands.flatMap fun p => upperPath p ++ finish)

/-! ### The system -/

/-- A program that writes one line. -/
def oneLine (text : String) (argv _ : List Octets) : Routine Nat := print (called argv).1 (line text.toList)

def identity (argv _ : List Octets) : Routine Nat := do
  let (name, args) := called argv
  (known "ugGnr" "" [("user", 'u'), ("group", 'g'), ("groups", 'G'), ("name", 'n')]).parse 1 name args fun g =>
    print name (line (
      if g.has 'u' || g.has 'g' || g.has 'G' then (if g.has 'n' then "root" else "0").toList
      else "uid=0(root) gid=0(root) groups=0(root)".toList))

def systemName (argv _ : List Octets) : Routine Nat := do
  let (name, args) := called argv
  (known "asnrvmpio" "" [("all", 'a')]).parse 1 name args fun g =>
    let parts := [('s', "Linux"), ('n', "localhost"), ('r', "6.1.0"), ('v', "#1 SMP"), ('m', "x86_64"),
      ('o', "GNU/Linux")]
    let shown := parts.filter fun (c, _) => g.has c || g.has 'a'
    print name (line (if shown.isEmpty then "Linux".toList
      else [' '].intercalate (shown.map (·.2.toList))))

/-! ### What shells do too -/

/-- Runs a command of a shell as a program. -/
def asProgram (command : List Octets → Shell.Sh Nat) (session : Shell.Session) (argv : List Octets) :
    Routine Nat := do
  let (result, s) ← (command (argv.drop 1)).run session
  return match result with
    | .ok status => status
    | .error _ => s.status

end DevServer.Program
