/-!
# Restarts and their tickets

Restarts are numbered 1, 2, 3, ... in the order they are asked for; the number is the ticket that a
caller holds. At most one restart waits to begin, and asking while one waits gives its ticket
(`Tracker.request`). A restart ends with an outcome, or is abandoned when its task dies; whoever
waits for an abandoned one learns that it failed.
-/

namespace DevServer.Restart

inductive Outcome where
  | succeeded
  | failed (reason : String)
  deriving DecidableEq, Repr

inductive Status where
  | pending
  | ended (outcome : Outcome)
  deriving DecidableEq, Repr

def Status.isFailed : Status → Bool
  | ended (.failed _) => true
  | ended .succeeded | pending => false

inductive Fate where
  | pending
  | ended (outcome : Outcome)
  | abandoned
  deriving DecidableEq, Repr

namespace Fate

/-- An abandoned restart never shows an outcome. -/
def status : Fate → Status
  | pending | abandoned => .pending
  | ended o => .ended o

/-- What waiting for the restart gives, once it gives anything. -/
def settled? : Fate → Option Outcome
  | pending => none
  | ended o => some o
  | abandoned => some (.failed "restart abandoned")

end Fate

structure Tracker where
  queued : Option Nat
  running : Option Nat
  started : Nat
  last : Option Status
  /-- What has become of each restart, by ticket from 1. -/
  fates : List Fate
  deriving DecidableEq, Repr

namespace Tracker

def new : Tracker := ⟨none, none, 0, none, []⟩

def created (t : Tracker) : Nat := t.fates.length

def fate? (t : Tracker) (ticket : Nat) : Option Fate :=
  if ticket = 0 then none else t.fates[ticket - 1]?

/-- The status of a ticket; one that was never handed out is pending. -/
def status (t : Tracker) (ticket : Nat) : Status := ((t.fate? ticket).map Fate.status).getD .pending

def isSettled (t : Tracker) (ticket : Nat) : Bool := t.status ticket != .pending

def settled? (t : Tracker) (ticket : Nat) : Option Outcome := (t.fate? ticket).bind Fate.settled?

/-- The ticket of the restart created last, if that is known. -/
def current? (t : Tracker) : Option Nat := t.queued.or t.running

/-- The current ticket while it shows no outcome. -/
def inFlight? (t : Tracker) : Option Nat := t.current?.filter (!t.isSettled ·)

def ticket (t : Tracker) : Nat := t.queued.getD (t.created + 1)

/-- Creates a restart, unless one waits to begin already. -/
def request (t : Tracker) : Tracker :=
  match t.queued with
  | some _ => t
  | none => { t with queued := some (t.created + 1), fates := t.fates ++ [.pending] }

def begin (t : Tracker) (ticket : Nat) : Tracker :=
  if t.queued = some ticket then
    { t with queued := none, running := some ticket, started := t.started + 1 }
  else { t with started := t.started + 1 }

def setFate (t : Tracker) (ticket : Nat) (f : Fate) : Tracker :=
  { t with fates := t.fates.set (ticket - 1) f }

def finish (t : Tracker) (ticket : Nat) (o : Outcome) : Tracker :=
  { t.setFate ticket (.ended o) with last := some (.ended o) }

def abandon (t : Tracker) (ticket : Nat) : Tracker := t.setFate ticket .abandoned

theorem request_of_queued {t : Tracker} {n : Nat} (h : t.queued = some n) :
    t.request = t ∧ t.ticket = n := by
  simp [request, ticket, h]

theorem queued_request (t : Tracker) : t.request.queued = some t.ticket := by
  unfold request ticket
  split <;> simp_all

end Tracker

end DevServer.Restart
