import DevServer.Shell.Lookup

/-!
# Redirections

Descriptors are led elsewhere for a command, and put back behind it.
-/

namespace DevServer.Shell

open Failure (Cause)
open Process (Request Routine)
open Text (Octets)

/-- A redirection whose words have been expanded. -/
inductive Diversion where
  | file (descriptor : Nat) (direction : Direction) (path : Octets)
  /-- The same as another descriptor, or closed. -/
  | copy (descriptor : Nat) (source : Option Nat)
  | text (descriptor : Nat) (content : Octets)
  deriving DecidableEq, Repr

namespace Diversion

def descriptor : Diversion → Nat
  | file d _ _ | copy d _ | text d _ => d

end Diversion

/-- Expands the words of a redirection. -/
def divert (run : Substitution) (r : Redirection) : Sh Diversion := do
  match r with
  | .document descriptor number =>
    let word := ((← get).documents.lookup number).getD []
    return .text descriptor (← expandText run .quoted word)
  | .file descriptor .copy target =>
    match ← expandText run .text target with
    | ['-'] => return .copy descriptor none
    | [c] =>
      if c.isDigit then return .copy descriptor (some (digitOf c))
      else Sh.fail "Syntax error: Bad fd number".toList
    | _ => Sh.fail "Syntax error: Bad fd number".toList
  | .file descriptor direction target =>
    return .file descriptor direction (← expandText run .text target)

/-- The mode of files that redirections make. -/
def newMode : Nat := 0o666

/-- How a file is opened. -/
def openingOf : Direction → Opening
  | .input | .copy => .reading
  | .both => ⟨true, true, some newMode, false, false, false⟩
  | .append => .appending newMode
  | .output | .overwrite => .writing newMode

/-- Opens the file of a diversion. -/
def openDiverted (direction : Direction) (path : Octets) : Sh Nat := do
  let makes := direction != .input
  let opening ← do
    if direction == .output && (← Sh.hasOption 'C') then
      match ← Sh.ask (.status path true) with
      | .error _ => pure { openingOf direction with exclusive := true }
      | .ok status =>
        if status.isRegular then Sh.fail ("cannot create ".toList ++ path ++ ": File exists".toList)
        pure (openingOf direction)
    else pure (openingOf direction)
  match ← Sh.ask (.open path opening) with
  | .ok descriptor => return descriptor
  | .error cause =>
    Sh.fail ((if makes then "cannot create " else "cannot open ").toList ++ path ++ ": ".toList ++
      openText makes cause)

/-- What can be read is a text. -/
def readable (content : Octets) : Sh Nat := do
  let (source, sink) : Nat × Nat ← Sh.ask .pipe
  if content.length ≤ 4096 then
    let _ ← Sh.put sink content
  else
    let _ ← liftM (Routine.fork do
      let _ ← Routine.ask (.close source)
      let _ ← Routine.writeAll sink content
      return 0)
  let _ ← Sh.ask (.close sink)
  return source

/-- Leads a descriptor to where an opened one leads, which is closed. -/
def moveTo (source target : Nat) : Sh Unit := do
  if source != target then
    let _ ← Sh.ask (.duplicate source target)
    let _ ← Sh.ask (.close source)

/-- What a descriptor led to, saved for later; `none` if it was closed. -/
abbrev Saved := List (Nat × Option Nat)

/-- Saves what a descriptor leads to, if that has not been done. -/
def saveDescriptor (saved : Saved) (descriptor : Nat) : Sh Saved := do
  if saved.any (·.1 == descriptor) then return saved
  match ← Sh.ask (.save descriptor) with
  | .ok n =>
    let _ ← Sh.ask (.close descriptor)
    return (descriptor, some n) :: saved
  | .error _ => return (descriptor, none) :: saved

/-- What a diversion leads its descriptor to; `none` closes it. -/
def opened : Diversion → Sh (Option Nat)
  | .file _ direction path => return some (← openDiverted direction path)
  | .text _ content => return some (← readable content)
  | .copy _ source => return source

/-- Leads a descriptor to what a diversion has opened. -/
def lead (d : Diversion) (source : Option Nat) : Sh Unit := do
  match d, source with
  | .copy descriptor _, none =>
    let _ ← Sh.ask (.close descriptor)
  | .copy descriptor _, some source =>
    match ← Sh.ask (.duplicate source descriptor) with
    | .ok () => pure ()
    | .error _ => Sh.fail (digits source ++ ": Bad file descriptor".toList)
  | d, some source => moveTo source d.descriptor
  | _, none => pure ()

/-- Leads a descriptor elsewhere for good. -/
def apply (d : Diversion) : Sh Unit := do lead d (← opened d)

/-- Puts descriptors back. -/
def restore (saved : Saved) : Sh Unit := do
  for (descriptor, n) in saved do
    match n with
    | some n =>
      let _ ← Sh.ask (.duplicate n descriptor)
      let _ ← Sh.ask (.close n)
    | none =>
      let _ ← Sh.ask (.close descriptor)

/-- Forgets what descriptors led to. -/
def forget (saved : Saved) : Sh Unit := do
  for (_, n) in saved do
    if let some n := n then
      let _ ← Sh.ask (.close n)

/-- Leads descriptors elsewhere, one after the other; what they led to is saved, also where one of
the diversions fails. -/
def applyAll : Saved → List Diversion → Sh (Saved × Except Jump Unit)
  | saved, [] => return (saved, .ok ())
  | saved, d :: ds => do
    let isNothing := match d with
      | .copy descriptor (some source) => descriptor == source
      | _ => false
    if isNothing then applyAll saved ds
    else
      match ← Sh.attempt (opened d) with
      | .error j => return (saved, .error j)
      | .ok source =>
        let isPlaced := source == some d.descriptor
        let saved ← if isPlaced && !saved.any (·.1 == d.descriptor) then
            pure ((d.descriptor, none) :: saved)
          else if isPlaced then pure saved
          else saveDescriptor saved d.descriptor
        match ← Sh.attempt (lead d source) with
        | .ok () => applyAll saved ds
        | .error j => return (saved, .error j)

end DevServer.Shell
