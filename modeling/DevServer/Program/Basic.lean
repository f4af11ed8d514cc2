import DevServer.Shell.Arithmetic
import DevServer.Process.Basic

/-!
# Programs

A program is given its arguments, of which the first is its own name, and its environment, and comes
to its status. Options are letters behind a dash or words behind two.
-/

namespace DevServer.Program

open Failure (Cause)
open Process (Request Routine)
open Text (Octets)

/-- What is said of a failed request. -/
def causeText (c : Cause) : Octets :=
  match c with
  | .errno n => (Cause.systemText n).toList
  | c => c.message.toList

/-- Writes a line about a program to the standard error. -/
def complain (name text : Octets) : Routine Unit := do
  let _ ← Routine.writeAll 2 (name ++ ": ".toList ++ text ++ ['\n'])

/-- Writes about something that failed, and why. -/
def complainOf (name what : Octets) (c : Cause) : Routine Unit :=
  complain name (what ++ ": ".toList ++ causeText c)

/-- Text between the quotes that messages have. -/
def inQuotes (s : Octets) : Octets := '\'' :: s ++ ['\'']

/-- Writes to the standard output; the status says whether that went well. -/
def print (name text : Octets) : Routine Nat := do
  match ← Routine.writeAll 1 text with
  | .ok () => return 0
  | .error cause =>
    complainOf name "write error".toList cause
    return 1

def line (s : Octets) : Octets := s ++ ['\n']

/-! ### Options -/

/-- The options that a program knows. -/
structure Known where
  /-- Letters that take nothing. -/
  plain : List Char
  /-- Letters that take something. -/
  taking : List Char
  /-- Words, each with the letter that it stands for. -/
  words : List (String × Char)
  /-- Whether options can come behind other arguments. -/
  anywhere : Bool
  deriving Repr

/-- Letters and what they take, in order, and the other arguments. -/
structure Given where
  options : List (Char × Octets)
  operands : List Octets
  deriving DecidableEq, Repr

namespace Given

def has (g : Given) (c : Char) : Bool := g.options.any (·.1 == c)

/-- What an option takes where it is given last. -/
def last? (g : Given) (c : Char) : Option Octets :=
  (g.options.reverse.find? (·.1 == c)).map (·.2)

/-- What an option takes wherever it is given. -/
def all (g : Given) (c : Char) : List Octets :=
  (g.options.filter (·.1 == c)).map (·.2)

/-- The last that is given of some options. -/
def lastOf (g : Given) (cs : List Char) : Option Char :=
  (g.options.reverse.find? fun (c, _) => cs.contains c).map (·.1)

end Given

namespace Known

def invalid (c : Char) : Octets := "invalid option -- '".toList ++ [c, '\'']

def wanting (c : Char) : Octets := "option requires an argument -- '".toList ++ [c, '\'']

def unknownWord (s : Octets) : Octets := "unrecognized option '".toList ++ s ++ ['\'']

/-- The letter that a word, or the beginning of one, stands for. -/
def wordLetter? (k : Known) (s : Octets) : Option Char :=
  match k.words.find? (·.1.toList == s) with
  | some (_, c) => some c
  | none => (k.words.find? fun (word, _) => s.isPrefixOf word.toList).map (·.2)

/-- Reads options and operands; the fuel is more than there are characters. -/
def read (k : Known) : Nat → List Octets → Except Octets Given
  | 0, args => .ok ⟨[], args⟩
  | _ + 1, [] => .ok ⟨[], []⟩
  | fuel + 1, a :: args =>
    let plus (o : Char × Octets) (rest : List Octets) : Except Octets Given :=
      (k.read fuel rest).map fun g => { g with options := o :: g.options }
    match a with
    | ['-', '-'] => .ok ⟨[], args⟩
    | '-' :: '-' :: word =>
      let name := word.takeWhile (· != '=')
      match k.wordLetter? name with
      | none => .error (unknownWord a)
      | some c =>
        if k.taking.contains c then
          match word.drop name.length, args with
          | _ :: value, args => plus (c, value) args
          | [], value :: args => plus (c, value) args
          | [], [] => .error ("option '".toList ++ a ++ "' requires an argument".toList)
        else plus (c, (word.drop name.length).drop 1) args
    | '-' :: c :: cs =>
      if k.taking.contains c then
        match cs, args with
        | [], value :: args => plus (c, value) args
        | [], [] => .error (wanting c)
        | value, args => plus (c, value) args
      else if k.plain.contains c then plus (c, []) (if cs.isEmpty then args else ('-' :: cs) :: args)
      else .error (invalid c)
    | a =>
      if k.anywhere then (k.read fuel args).map fun g => { g with operands := a :: g.operands }
      else .ok ⟨[], a :: args⟩

/-- Goes on with the options and operands of a program, or says what is wrong with them and ends with
a status. -/
def parse (k : Known) (failure : Nat) (name : Octets) (args : List Octets)
    (go : Given → Routine Nat) : Routine Nat := do
  match k.read ((args.map fun a => a.length + 1).foldl (· + ·) 1) args with
  | .ok given => go given
  | .error text =>
    complain name text
    let _ ← Routine.writeAll 2 (line ("Try '".toList ++ name ++ " --help' for more information.".toList))
    return failure

end Known

/-- Options that may come anywhere. -/
def known (plain taking : String) (words : List (String × Char)) : Known :=
  ⟨plain.toList, taking.toList, words, true⟩

/-- Options that come in front. -/
def knownInFront (plain taking : String) (words : List (String × Char)) : Known :=
  ⟨plain.toList, taking.toList, words, false⟩

/-- Says that there are too few operands. -/
def missing (name : Octets) (text : String) : Routine Nat := do
  complain name text.toList
  let _ ← Routine.writeAll 2 (line ("Try '".toList ++ name ++ " --help' for more information.".toList))
  return 1

/-! ### Input -/

/-- Does something with the standard input for a dash, or with an opened file. -/
def withInput {A : Type} (path : Octets) (f : Nat → Routine A) : Routine (Except Cause A) := do
  if path = ['-'] then
    let a ← f 0
    return .ok a
  else
    match ← Routine.ask (.open path .reading) with
    | .error cause => return .error cause
    | .ok descriptor =>
      let a ← f descriptor
      let _ ← Routine.ask (.close descriptor)
      return .ok a

/-- The standard input where no files are named. -/
def inputs (operands : List Octets) : List Octets := if operands.isEmpty then [['-']] else operands

/-- The contents of files, one after the other, as far as they can be read, and the status. -/
def readInputs (name : Octets) (failure : Nat) : List Octets → Routine (List (Octets × Octets) × Nat)
  | [] => return ([], 0)
  | path :: paths => do
    let result ← withInput path fun descriptor => Routine.readAll descriptor
    let result := result.bind id
    match result with
    | .ok text =>
      let (more, status) ← readInputs name failure paths
      return ((path, text) :: more, status)
    | .error cause =>
      complainOf name path cause
      let (more, _) ← readInputs name failure paths
      return (more, failure)

/-- The lines of a text, each with its end if it has one. -/
def fullLines (s : Octets) : List Octets := s.splitBy fun a _ => a != '\n'

/-- A line without its end. -/
def bare (l : Octets) : Octets := if l.getLast? = some '\n' then l.dropLast else l

def bareLines (s : Octets) : List Octets := (fullLines s).map bare

/-- The lines of a text that begins in the middle of one: those that are complete, and the rest. -/
def completeLines (s : Octets) : List Octets × Octets :=
  let ls := fullLines s
  match ls.getLast? with
  | some l => if l.getLast? = some '\n' then (ls, []) else (ls.dropLast, l)
  | none => ([], [])

/-! ### Numbers -/

/-- A number with a letter for its size behind it, such as `2K`. -/
def sized? (s : Octets) : Option Nat :=
  let ds := s.takeWhile Char.isDigit
  let unit := match String.ofList (s.drop ds.length) with
    | "" => some 1
    | "b" => some 512
    | "K" | "k" | "KiB" => some 1024
    | "kB" | "KB" => some 1000
    | "M" | "MiB" => some 1048576
    | "MB" => some 1000000
    | "G" | "GiB" => some 1073741824
    | "GB" => some 1000000000
    | _ => none
  if ds.isEmpty then none else unit.map (Shell.valueInBase 10 ds * ·)

end DevServer.Program
