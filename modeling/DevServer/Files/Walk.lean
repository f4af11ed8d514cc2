import DevServer.Files.Basic

/-!
# Following paths

A path is followed name by name from a directory. Every name but the last has to lead to a
directory, and a link is followed in its place. The last name need not be there, so a walk says in
which directory it was looked for.
-/

namespace DevServer

structure Place where
  directory : Nat
  /-- The last name, unless the path ends in a directory's own name for itself or its parent. -/
  name : Option Bytes
  node : Option Nat
  /-- Whether the spelling asks for a directory. -/
  asksDirectory : Bool
  deriving DecidableEq, Repr

namespace Files

open Failure

def longestPath : Nat := 4096

def longestName : Nat := 255

def mostLinks : Nat := 40

def isDot (part : Bytes) : Bool := part == [0x2E]

def isDots (part : Bytes) : Bool := part == [0x2E, 0x2E]

/-- The parts of a path that name something. -/
def stepsOf (path : Bytes) : List Bytes := (Path.parts path).filter (· != [])

def step (t : Files) (directory : Nat) (part : Bytes) : Except Cause (Option Nat) :=
  if !t.isDirectory directory then .error .notDirectory
  else if isDot part then .ok (some directory)
  else if isDots part then .ok (some (t.parentOf directory))
  else if longestName < part.length then .error .nameTooLong
  else .ok (t.entry? directory part)

def linkTarget? (t : Files) (n : Nat) : Option Bytes :=
  match t.node? n with
  | some ⟨.link target, _, _⟩ => some target
  | _ => none

/-- Follows the parts of a path; `through` says whether a link at the end is followed. -/
def walkFrom (t : Files) (through : Bool) (links at_ : Nat) : List Bytes → Except Cause Place
  | [] => .ok ⟨at_, none, some at_, true⟩
  | part :: rest =>
    match t.step at_ part with
    | .error cause => .error cause
    | .ok none =>
      if rest.isEmpty then .ok ⟨at_, some part, none, false⟩ else .error .notFound
    | .ok (some n) =>
      match if rest.isEmpty && !through then none else t.linkTarget? n with
      | some target =>
        match links with
        | 0 => .error .linkLoop
        | links + 1 =>
          if target.isEmpty then .error .notFound
          else t.walkFrom through links (if target.head? = some 0x2F then top else at_)
            (stepsOf target ++ rest)
      | none =>
        if rest.isEmpty then
          let name := if isDot part || isDots part then none else some part
          .ok ⟨at_, name, some n, false⟩
        else t.walkFrom through links n rest
  termination_by parts => (links, parts.length)

def walk (t : Files) (cwd : Nat) (through : Bool) (path : Bytes) : Except Cause Place := do
  if path.contains 0 then throw .zeroByte
  if path.isEmpty then throw .notFound
  if longestPath ≤ path.length then throw .nameTooLong
  let slashed := path.getLast? = some 0x2F
  let start := if path.head? = some 0x2F then top else cwd
  let place ← t.walkFrom (through || slashed) mostLinks start (stepsOf path)
  return { place with asksDirectory := slashed }

def find (t : Files) (cwd : Nat) (path : Bytes) (through : Bool) : Except Cause Nat := do
  let place ← t.walk cwd through path
  match place.node with
  | none => throw .notFound
  | some n => if place.asksDirectory && !t.isDirectory n then throw .notDirectory else return n

def isThere (t : Files) (cwd : Nat) (path : Bytes) : Bool := (t.find cwd path true).toBool

/-- The bytes of the file that a path leads to. The process that reads is the superuser's, so the
modes of the nodes do not matter. -/
def read (t : Files) (cwd : Nat) (path : Bytes) : Except Cause Bytes := do
  let n ← t.find cwd path true
  match t.node? n with
  | some ⟨.file bytes, _, _⟩ => return bytes
  | some ⟨.directory _ _, _, _⟩ => throw .isDirectory
  | _ => return []

def readText (t : Files) (cwd : Nat) (path : Bytes) : Option String :=
  (t.read cwd path).toOption.bind Text.decode?

/-- The names in a directory, in the order of their bytes. -/
def list (t : Files) (cwd : Nat) (path : Bytes) : Except Cause (List Bytes) := do
  let n ← t.find cwd path true
  if !t.isDirectory n then throw .notDirectory
  let names := (((t.node? n).map Node.entries).getD []).map (·.1)
  return names.mergeSort fun a b => Path.compareBytes a b != .gt

def readLink (t : Files) (cwd : Nat) (path : Bytes) : Except Cause Bytes := do
  match t.linkTarget? (← t.find cwd path false) with
  | some target => return target
  | none => throw .invalid

end Files

end DevServer
