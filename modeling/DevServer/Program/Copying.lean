import DevServer.Program.Reading

/-!
# Copying in blocks

`dd` copies its input to its output block by block, and says how many there were.
-/

namespace DevServer.Program

open Failure (Cause)
open Process (Request Routine)
open Text (Octets)

/-- How blocks are copied. -/
structure Blocks where
  read : Nat
  written : Nat
  /-- At most so many blocks are read. -/
  count : Option Nat
  skipped : Nat
  sought : Nat

/-- How many whole blocks there were, how many others, and how many bytes. -/
structure Copied where
  whole : Nat
  partly : Nat
  bytes : Nat

def Copied.plus (c : Copied) (size limit : Nat) : Copied :=
  if size = 0 then c
  else if size = limit then { c with whole := c.whole + 1, bytes := c.bytes + size }
  else { c with partly := c.partly + 1, bytes := c.bytes + size }

def Copied.text (c : Copied) : Octets := Shell.digits c.whole ++ '+' :: Shell.digits c.partly

/-- What an operand gives to a name. -/
def assignedTo (operands : List Octets) (name : String) : Option Octets :=
  let front := name.toList ++ ['=']
  ((operands.reverse.find? fun a => front.isPrefixOf a)).map (·.drop front.length)

/-- Copies blocks until there are no more or enough of them. -/
def copyBlocks (source sink : Nat) (b : Blocks) : Routine (Except Cause Unit × Copied × Copied) :=
  Routine.repeated (fun (n, taken, given) => do
    if b.count = some n then return .inr (.ok (), taken, given)
    match ← Routine.ask (.read source b.read) with
    | .error cause => return .inr (.error cause, taken, given)
    | .ok [] => return .inr (.ok (), taken, given)
    | .ok piece =>
      let taken := Copied.plus taken piece.length b.read
      match ← Routine.writeAll sink piece with
      | .error cause => return .inr (.error cause, taken, given)
      | .ok () => return .inl (n + 1, taken, Copied.plus given piece.length b.written))
    (fun (_, taken, given) => (.ok (), taken, given)) Routine.manyTurns (0, ⟨0, 0, 0⟩, ⟨0, 0, 0⟩)

def dd (argv _ : List Octets) : Routine Nat := do
  let (name, args) := called argv
  match args.find? fun a => !a.contains '=' with
  | some bad => missing name ("unrecognized operand " ++ String.ofList (inQuotes bad))
  | none =>
    let value := assignedTo args
    let size (s : String) : Option Nat := (value s).bind sized?
    let read := ((size "bs").orElse fun _ => size "ibs").getD 512
    let written := ((size "bs").orElse fun _ => size "obs").getD 512
    let b : Blocks := ⟨read, written, size "count", (size "skip").getD 0, (size "seek").getD 0⟩
    let conversions := (value "conv").getD []
    let source : Except Cause Nat ← match value "if" with
      | none => pure (.ok 0)
      | some path => Routine.ask (.open path .reading)
    let empties := !(conversions == "notrunc".toList)
    let sink : Except Cause Nat ← match value "of" with
      | none => pure (.ok 1)
      | some path => Routine.ask (.open path { Opening.writing 0o666 with empties })
    match source, sink with
    | .error cause, _ =>
      complainOf name ("failed to open ".toList ++ inQuotes ((value "if").getD [])) cause
      return 1
    | _, .error cause =>
      complainOf name ("failed to open ".toList ++ inQuotes ((value "of").getD [])) cause
      return 1
    | .ok source, .ok sink =>
      for _ in List.range b.skipped do
        let _ ← Routine.ask (.read source b.read)
      let (result, taken, given) ← copyBlocks source sink b
      let status ← match result with
        | .ok () => pure 0
        | .error cause =>
          complainOf name (if taken.bytes = given.bytes then "error reading".toList
            else "error writing".toList) cause
          pure 1
      if value "status" != some "none".toList then
        let _ ← Routine.writeAll 2 (taken.text ++ " records in\n".toList ++ given.text ++
          " records out\n".toList)
        if value "status" != some "noxfer".toList then
          let _ ← Routine.writeAll 2 (Shell.digits given.bytes ++ " bytes copied\n".toList)
      return status

end DevServer.Program
