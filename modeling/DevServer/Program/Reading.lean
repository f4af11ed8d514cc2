import DevServer.Program.Output

/-!
# Programs that read

They pass on what they read, or some of it, as it comes.
-/

namespace DevServer.Program

open Failure (Cause)
open Process (Request Routine)
open Text (Octets)

/-- How a stretch of reading has ended. -/
inductive Stretch where
  | done
  | unread (cause : Cause)
  | unwritten (cause : Cause)

/-- Passes on pieces of what is read until a function of them wants no more. -/
def passing {S : Type} (descriptor : Nat) (f : S → Octets → Octets × S × Bool) (s : S) :
    Routine (Stretch × S) :=
  Routine.repeated (fun s => do
    match ← Routine.ask (.read descriptor Routine.readSize) with
    | .error cause => return .inr (.unread cause, s)
    | .ok [] => return .inr (.done, s)
    | .ok piece =>
      let (out, s, goesOn) := f s piece
      match ← Routine.writeAll 1 out with
      | .error cause => return .inr (.unwritten cause, s)
      | .ok () => return if goesOn then .inl s else .inr (.done, s)) (fun s => (.done, s))
    Routine.manyTurns s

/-- Output is kept back until there is so much of it. -/
def blockSize : Nat := 4096

/-- What is written of some output, in whole blocks, and what is kept back. -/
def wholeBlocks (out : Octets) : Octets × Octets :=
  out.splitAt (out.length / blockSize * blockSize)

/-- Like `passing`, for lines; the last one need not have an end. What is written is kept back for a
whole block, or for the end. -/
def passingLines {S : Type} (descriptor : Nat) (f : S → Octets → Octets × S × Bool) (s : S) :
    Routine (Stretch × S) := do
  let many (s : S) (ls : List Octets) : Octets × S × Bool :=
    ls.foldl (fun (out, s, goesOn) l =>
      if goesOn then
        let (more, s, goesOn) := f s l
        (out ++ more, s, goesOn)
      else (out, s, false)) ([], s, true)
  let finish (kept : Octets) (s : S) (stretch : Stretch) : Routine (Stretch × S) := do
    match ← Routine.writeAll 1 kept with
    | .error cause => return (.unwritten cause, s)
    | .ok () => return (stretch, s)
  Routine.repeated (fun ((held, kept, s) : Octets × Octets × S) => do
    match ← Routine.ask (.read descriptor Routine.readSize) with
    | .error cause => return .inr (← finish kept s (.unread cause))
    | .ok [] =>
      let (out, s, _) := many s (if held.isEmpty then [] else [held])
      return .inr (← finish (kept ++ out) s .done)
    | .ok piece =>
      let (ls, held) := completeLines (held ++ piece)
      let (out, s, goesOn) := many s ls
      if goesOn then
        let (now, later) := wholeBlocks (kept ++ out)
        match ← Routine.writeAll 1 now with
        | .error cause => return .inr (.unwritten cause, s)
        | .ok () => return .inl (held, later, s)
      else return .inr (← finish (kept ++ out) s .done))
    (fun (_, _, s) => (.done, s)) Routine.manyTurns ([], [], s)

/-- Does something with each input; its failures are complained of. -/
def eachInput {S : Type} (name : Octets) (cannotOpen : Octets → Octets)
    (f : Octets → Nat → S → Routine (Stretch × S)) (status : Nat) (s : S) :
    List Octets → Routine (Nat × S)
  | [] => return (status, s)
  | path :: paths => do
    match ← withInput path fun descriptor => f path descriptor s with
    | .error cause =>
      complainOf name (cannotOpen path) cause
      eachInput name cannotOpen f 1 s paths
    | .ok (.done, s) => eachInput name cannotOpen f status s paths
    | .ok (.unread cause, s) =>
      complainOf name path cause
      eachInput name cannotOpen f 1 s paths
    | .ok (.unwritten cause, s) =>
      complainOf name "write error".toList cause
      return (1, s)

def opening (path : Octets) : Octets := "cannot open ".toList ++ inQuotes path ++ " for reading".toList

/-! ### Whole files -/

/-- What `cat` shows of lines. -/
structure Showing where
  numbers : Bool
  /-- Whether empty lines get no number. -/
  filled : Bool
  squeezes : Bool
  ends : Bool
  tabs : Bool
  unseen : Bool
  deriving DecidableEq, Repr

/-- Where a showing is: the last number, the empty lines before, and whether a line has begun. -/
structure ShownSoFar where
  number : Nat
  empties : Nat
  begun : Bool

/-- A byte as it is shown where unseen ones are to be seen. -/
def visible (tabs : Bool) (c : Char) : Octets :=
  let low (n : Nat) : Octets :=
    if n < 32 then ['^', Char.ofNat (n + 64)] else if n = 127 then ['^', '?'] else [Char.ofNat n]
  if c = '\t' && !tabs || c = '\n' then [c]
  else if c.toNat < 128 then low c.toNat
  else 'M' :: '-' :: low (c.toNat - 128)

/-- A piece of lines as it is shown. -/
def shownLines (w : Showing) (s : ShownSoFar) (piece : Octets) : Octets × ShownSoFar :=
  (fullLines piece).foldl (fun (out, s) l =>
    let isWhole := l.getLast? = some '\n'
    let isEmpty := !s.begun && l == ['\n']
    let empties := if isEmpty then s.empties + 1 else 0
    if w.squeezes && 1 < empties then (out, { s with empties })
    else
      let numbered := w.numbers && !s.begun && !(w.filled && isEmpty)
      let number := if numbered then s.number + 1 else s.number
      let ds := Nat.toDigits 10 number
      let front : Octets := if numbered then List.replicate (6 - ds.length) ' ' ++ ds ++ ['\t'] else []
      let body := if isWhole then l.dropLast else l
      let body := if w.unseen then body.flatMap (visible w.tabs)
        else if w.tabs then body.flatMap fun c => if c = '\t' then ['^', 'I'] else [c]
        else body
      let tail : Octets := if !isWhole then [] else if w.ends then ['$', '\n'] else ['\n']
      (out ++ front ++ body ++ tail, ⟨number, empties, !isWhole⟩)) ([], s)

def catKnown : Known := known "AbeEnstTuv" "" [("show-all", 'A'), ("number-nonblank", 'b'),
  ("show-ends", 'E'), ("number", 'n'), ("squeeze-blank", 's'), ("show-tabs", 'T'),
  ("show-nonprinting", 'v')]

def cat (argv _ : List Octets) : Routine Nat := do
  let (name, args) := called argv
  catKnown.parse 1 name args fun g => do
    let has (cs : String) : Bool := cs.toList.any g.has
    let w : Showing := ⟨has "nb", has "b", has "s", has "AeE", has "AtT", has "Aetv"⟩
    let isPlain := w == ⟨false, false, false, false, false, false⟩
    let show_ (s : ShownSoFar) (piece : Octets) : Octets × ShownSoFar × Bool :=
      if isPlain then (piece, s, true)
      else
        let (out, s) := shownLines w s piece
        (out, s, true)
    let (status, _) ← eachInput name id (fun _ d s => passing d show_ s) 0 (⟨0, 0, false⟩ : ShownSoFar)
      (inputs g.operands)
    if (inputs g.operands).contains ['-'] then
      match ← Routine.ask (.close 0) with
      | .ok () => return status
      | .error cause =>
        complainOf name "closing standard input".toList cause
        return 1
    else return status

/-- Writes lines with their characters turned round. -/
def rev (argv _ : List Octets) : Routine Nat := do
  let (name, args) := called argv
  let turned (l : Octets) : Octets :=
    if l.getLast? = some '\n' then l.dropLast.reverse ++ ['\n'] else l.reverse
  let (status, _) ← eachInput name opening (fun _ d _ =>
    passingLines d (fun _ l => (turned l, (), true)) ()) 0 () (inputs args)
  return status

/-- Writes the lines of each file from the last to the first. -/
def tac (argv _ : List Octets) : Routine Nat := do
  let (name, args) := called argv
  let (texts, status) ← readInputs name 1 (inputs args)
  let written ← print name (texts.flatMap fun (_, s) => (fullLines s).reverse.flatten)
  return max status written

/-! ### The beginning and the end -/

/-- How much of a text is wanted. -/
structure Amount where
  /-- Whether bytes are counted, and not lines. -/
  bytes : Bool
  count : Nat
  /-- Whether it is counted from the other side. -/
  turned : Bool
  deriving DecidableEq, Repr

/-- The parts of a text that are counted. -/
def Amount.parts (a : Amount) (s : Octets) : List Octets :=
  if a.bytes then s.map fun c => [c] else fullLines s

/-- The amount that is given, where a sign turns it round. -/
def Amount.of? (bytes : Bool) (sign : Char) (s : Octets) : Option Amount :=
  let (turned, ds) := match s with
    | c :: ds => if c = sign then (true, ds) else if c = '-' || c = '+' then (false, ds) else (false, s)
    | [] => (false, [])
  (sized? ds).map fun n => ⟨bytes, n, turned⟩

/-- An old option such as `-5` is written as a newer one. -/
def modern (args : List Octets) : List Octets :=
  match args with
  | ('-' :: c :: cs) :: rest =>
    if c.isDigit then
      let ds := (c :: cs).takeWhile Char.isDigit
      let unit := (c :: cs).drop ds.length
      (if unit.contains 'c' then ['-', 'c'] else ['-', 'n']) :: ds ::
        (if unit.contains 'f' then [['-', 'f']] else []) ++ rest
    else args
  | _ => args

/-- The beginning of what is read; what has been counted so far is subtracted. -/
def beginning (a : Amount) (left : Nat) (piece : Octets) : Octets × Nat × Bool :=
  if a.bytes then (piece.take left, left - piece.length, piece.length < left)
  else
    let ls := fullLines piece
    let whole := (ls.filter fun l => l.getLast? = some '\n').length
    if whole < left then (piece, left - whole, true) else ((ls.take left).flatten, 0, false)

def headKnown : Known := known "qvz" "nc" [("lines", 'n'), ("bytes", 'c'), ("quiet", 'q'),
  ("silent", 'q'), ("verbose", 'v'), ("zero-terminated", 'z')]

/-- What stands above the part of a file. -/
def partTitle (isFirst : Bool) (path : Octets) : Octets :=
  (if isFirst then [] else ['\n']) ++ "==> ".toList ++
    (if path = ['-'] then "standard input".toList else path) ++ " <==\n".toList

/-- The amount that is asked for, ten lines otherwise, or what is wrong with it. -/
def amountOf (g : Given) (sign : Char) : Except Octets Amount :=
  match g.lastOf ['n', 'c'] with
  | none => .ok ⟨false, 10, false⟩
  | some c =>
    let s := (g.last? c).getD []
    match Amount.of? (c == 'c') sign s with
    | some a => .ok a
    | none =>
      .error ((if c == 'c' then "invalid number of bytes: " else "invalid number of lines: ").toList ++
        inQuotes s)

/-- Does something with each input under its title, if titles are wanted. -/
def titled (name : Octets) (g : Given) (f : Nat → Routine Stretch) : Routine Nat := do
  let paths := inputs g.operands
  let titles := g.has 'v' || (1 < paths.length && !g.has 'q')
  let (status, _) ← eachInput name opening (fun path d isFirst => do
    if titles then
      let _ ← print name (partTitle isFirst path)
    let stretch ← f d
    return (stretch, false)) 0 true paths
  return status

def head (argv _ : List Octets) : Routine Nat := do
  let (name, args) := called argv
  headKnown.parse 1 name (modern args) fun g => do
    match amountOf g '-' with
    | .error text =>
      complain name text
      return 1
    | .ok a =>
      titled name g fun d => do
        if a.turned then
          match ← Routine.readAll d with
          | .error cause => return .unread cause
          | .ok text =>
            let parts := a.parts text
            match ← Routine.writeAll 1 (parts.take (parts.length - a.count)).flatten with
            | .error cause => return .unwritten cause
            | .ok () => return .done
        else if a.count = 0 then return .done
        else
          let (stretch, _) ← passing d (beginning a) a.count
          return stretch

def tailKnown : Known := known "fFqvz" "ncs" [("lines", 'n'), ("bytes", 'c'), ("follow", 'f'),
  ("quiet", 'q'), ("silent", 'q'), ("verbose", 'v'), ("sleep-interval", 's')]

/-- How often a file that is followed is looked at, in microseconds. -/
def followTime : Nat := 20000

/-- Passes on what is appended to a file. -/
def following (descriptor : Nat) : Routine Stretch := do
  let (stretch, _) ← Routine.repeated (fun (_ : Unit) => do
    let (stretch, _) ← passing descriptor (fun (_ : Unit) piece => (piece, (), true)) ()
    match stretch with
    | .done =>
      Routine.ask (.pause followTime)
      return .inl ()
    | stretch => return .inr (stretch, ())) (fun _ => (.done, ())) Routine.manyTurns ()
  return stretch

def tail (argv _ : List Octets) : Routine Nat := do
  let (name, args) := called argv
  let args := match args with
    | ('+' :: c :: cs) :: rest => if c.isDigit then ['-', 'n'] :: ('+' :: c :: cs) :: rest else args
    | args => modern args
  tailKnown.parse 1 name args fun g => do
    match amountOf g '+' with
    | .error text =>
      complain name text
      return 1
    | .ok a =>
      titled name g fun d => do
        match ← Routine.readAll d with
        | .error cause => return .unread cause
        | .ok text =>
          let parts := a.parts text
          let wanted := if a.turned then parts.drop (a.count - 1)
            else parts.drop (parts.length - a.count)
          match ← Routine.writeAll 1 wanted.flatten with
          | .error cause => return .unwritten cause
          | .ok () => if g.has 'f' || g.has 'F' then following d else return .done

/-! ### Counting -/

structure Counts where
  lines : Nat
  words : Nat
  chars : Nat
  bytes : Nat
  longest : Nat
  deriving DecidableEq, Repr

namespace Counts

def of (s : Octets) : Counts where
  lines := (s.filter (· == '\n')).length
  words := ((s.splitBy fun a b => Shell.isBlank a == Shell.isBlank b).filter fun w =>
    !(w.headD ' ' |> Shell.isBlank)).length
  chars := s.length
  bytes := s.length
  longest := ((bareLines s).map List.length).foldl max 0

def add (a b : Counts) : Counts :=
  ⟨a.lines + b.lines, a.words + b.words, a.chars + b.chars, a.bytes + b.bytes, max a.longest b.longest⟩

/-- The numbers that are wanted, each as wide as is asked for. -/
def text (c : Counts) (wanted : List Char) (width : Nat) : Octets :=
  let number (n : Nat) : Octets :=
    let ds := Nat.toDigits 10 n
    List.replicate (width - ds.length) ' ' ++ ds
  let all := [('l', c.lines), ('w', c.words), ('m', c.chars), ('c', c.bytes), ('L', c.longest)]
  [' '].intercalate ((all.filter fun (k, _) => wanted.contains k).map fun (_, n) => number n)

end Counts

def wc (argv _ : List Octets) : Routine Nat := do
  let (name, args) := called argv
  (known "lwcmL" "" [("lines", 'l'), ("words", 'w'), ("bytes", 'c'), ("chars", 'm'),
    ("max-line-length", 'L')]).parse 1 name args fun g => do
    let wanted := if g.options.isEmpty then ['l', 'w', 'c'] else g.options.map (·.1)
    let kinds := (['l', 'w', 'm', 'c', 'L'].filter wanted.contains).length
    let (texts, status) ← readInputs name 1 (inputs g.operands)
    let counts := texts.map fun (path, s) => (path, Counts.of s)
    let total := (counts.map (·.2)).foldl Counts.add ⟨0, 0, 0, 0, 0⟩
    let isSingle := (inputs g.operands).length = 1
    let width :=
      if kinds = 1 && isSingle then 1
      else if g.operands.isEmpty || g.operands.contains ['-'] then 7
      else (Nat.toDigits 10 total.bytes).length
    let rows := counts.map fun (path, c) =>
      line (c.text wanted width ++ if g.operands.isEmpty then [] else ' ' :: path)
    let sum := if isSingle then [] else line (total.text wanted width ++ " total".toList)
    let written ← print name (rows.flatten ++ sum)
    return max status written

/-! ### Branching -/

/-- Writes what is read to some descriptors; those that fail are left out. -/
def branching (name : Octets) (descriptors : List (Nat × Octets)) : Routine Nat := do
  let (status, _) ← Routine.repeated (fun ((status, open_) : Nat × List (Nat × Octets)) => do
    match ← Routine.ask (.read 0 Routine.readSize) with
    | .error cause =>
      complainOf name "read error".toList cause
      return .inr (1, open_)
    | .ok [] => return .inr (status, open_)
    | .ok piece =>
      let results ← open_.mapM fun (d, path) => do
        match ← Routine.writeAll d piece with
        | .ok () => return (true, d, path)
        | .error cause =>
          complainOf name path cause
          return (false, d, path)
      let status := if results.all (·.1) then status else 1
      return .inl (status, (results.filter (·.1)).map (·.2))) id Routine.manyTurns (0, descriptors)
  return status

def tee (argv _ : List Octets) : Routine Nat := do
  let (name, args) := called argv
  (known "aip" "" [("append", 'a'), ("ignore-interrupts", 'i')]).parse 1 name args fun g => do
    if g.has 'i' then Routine.ask (.handle 2 .ignored)
    let opening := if g.has 'a' then Opening.appending 0o666 else Opening.writing 0o666
    let opened ← g.operands.mapM fun path => do
      match ← Routine.ask (.open path opening) with
      | .ok d => return some (d, path)
      | .error cause =>
        complainOf name path cause
        return none
    let status ← branching name ((1, "standard output".toList) :: opened.filterMap id)
    return if opened.all (·.isSome) then status else 1

end DevServer.Program
