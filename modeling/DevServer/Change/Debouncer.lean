import DevServer.Change.Basic
import DevServer.Log.Line

/-!
# Debouncing

A debouncer collects the changes of a source tree until no change has come for a window of time, and
then gives them out as one batch in path order. Per path it keeps one pending kind: `Merge.of` says
what a further change makes of it. Times are microseconds.
-/

namespace DevServer

inductive Merge where
  /-- The pending kind stands and the change does not count. -/
  | keep
  | set (kind : ChangeKind)
  | cancel
  deriving DecidableEq, Repr

/--
A change after a removal replaces it, a removal replaces a modification and cancels a creation, and
otherwise the first change stands.
-/
def Merge.of : Option ChangeKind → ChangeKind → Merge
  | none, kind => .set kind
  | some .removed, .created => .set .created
  | some .removed, .modified => .set .modified
  | some .modified, .removed => .set .removed
  | some .created, .removed => .cancel
  | some _, _ => .keep

/-- Pending changes, at most one a path. -/
abbrev Pending := List Change

namespace Pending

def kind? (pending : Pending) (p : Path) : Option ChangeKind :=
  (pending.find? (·.path.same p)).map Change.kind

/-- A path that is already pending keeps its spelling. -/
def set (pending : Pending) (p : Path) (kind : ChangeKind) : Pending :=
  match pending with
  | [] => [⟨p, kind⟩]
  | c :: cs => if c.path.same p then { c with kind } :: cs else c :: set cs p kind

def erase (pending : Pending) (p : Path) : Pending := pending.filter (!·.path.same p)

/-- In path order. -/
def sorted (pending : Pending) : List Change :=
  pending.mergeSort fun a b => (a.path.compare b.path).isLE

end Pending

def temporaryExtensions : List String := ["bck", "bak", "backup", "swp", "swo", "tmp"]

/-- Swap and backup files, and names that begin with a dot. A name that is no text is not judged. -/
def isTemporary (p : Path) : Bool :=
  let name := (p.fileName?.bind Text.decode?).getD ""
  let ext := (p.extension?.bind Text.decode?).getD ""
  temporaryExtensions.contains ext || name.endsWith "~" || name.startsWith "."

structure Debouncer where
  window : Nat
  pending : Pending
  /-- When the last change that counted came, unless a batch has been taken since. -/
  lastChange : Option Nat
  deriving Repr

namespace Debouncer

def new (window : Nat) : Debouncer := ⟨window, [], none⟩

/-- The wait with nothing to wait for, a day. -/
def idleWait : Nat := 86400 * 1000000

def leastWait : Nat := 1000

def changeLine (kind : ChangeKind) (p : Path) : Log.Line :=
  .debug s!"watch: {kind.name} {p.display}"

def recordChange (now : Nat) (kind : ChangeKind) (d : Debouncer) (p : Path) : Debouncer :=
  if isTemporary p then d
  else match Merge.of (d.pending.kind? p) kind with
    | .keep => d
    | .set k => { d with pending := d.pending.set p k, lastChange := some now }
    | .cancel => { d with pending := d.pending.erase p, lastChange := some now }

def counts (d : Debouncer) (kind : ChangeKind) (p : Path) : Bool :=
  !isTemporary p && Merge.of (d.pending.kind? p) kind != .keep

def record (d : Debouncer) (now : Nat) (e : FileEvent) : Debouncer :=
  match e.kind.change? with
  | none => d
  | some kind => e.paths.foldl (recordChange now kind) d

/-- The lines that recording an event logs: one for each path that counts. -/
def recordLines (d : Debouncer) (now : Nat) (e : FileEvent) : List Log.Line :=
  match e.kind.change? with
  | none => []
  | some kind => go kind d e.paths
where
  go (kind : ChangeKind) (d : Debouncer) : List Path → List Log.Line
    | [] => []
    | p :: ps =>
      let rest := go kind (d.recordChange now kind p) ps
      if d.counts kind p then changeLine kind p :: rest else rest

def isReady (d : Debouncer) (now : Nat) : Bool :=
  match d.lastChange with
  | none => false
  | some last => decide (d.window ≤ now - last) && !d.pending.isEmpty

/-- The pending changes in path order, once the window has passed, and the debouncer without them. -/
def take? (d : Debouncer) (now : Nat) : Option (List Change × Debouncer) :=
  if d.isReady now then some (d.pending.sorted, { d with pending := [], lastChange := none })
  else none

def wait (d : Debouncer) (now : Nat) : Nat :=
  match d.lastChange with
  | none => idleWait
  | some last => max (d.window - (now - last)) leastWait

@[simp] theorem isReady_new (window now : Nat) : (new window).isReady now = false := rfl

theorem take?_eq_none_iff (d : Debouncer) (now : Nat) :
    d.take? now = none ↔ d.isReady now = false := by
  simp [take?]

theorem leastWait_le_wait (d : Debouncer) (now : Nat) : leastWait ≤ d.wait now := by
  unfold wait
  split
  · decide
  · exact Nat.le_max_right ..

end Debouncer

end DevServer
