import DevServer.Log.Line
import DevServer.Reload.Event

/-!
# The reload channel

Senders put events into a buffer of bounded size and every subscription reads them in order from
where it began; positions count the events that have been sent. An event that is sent while nobody is
subscribed is lost, and a subscription that has fallen behind goes on at the oldest event that is
still there. `trySend` and `poll` are what the buffer itself answers. `broadcast` makes a count of the
one, `await` polls until it is not told of lost events, and `subscribe` and `unsubscribe` keep a
counter beside the subscriptions.
-/

namespace DevServer.Reload

structure Subscription where
  next : Nat
  live : Bool
  deriving DecidableEq, Repr

structure Channel where
  capacity : Nat
  /-- The events still there, oldest first. -/
  buffer : List Event
  sent : Nat
  subscriptions : List Subscription
  /-- The number of subscribers as it is reported. -/
  subscribers : Nat
  senders : List Bool
  deriving Repr

inductive Poll where
  | event (e : Event)
  /-- So many events have left the buffer before they were read. -/
  | lagged (skipped : Nat)
  | empty
  | closed
  deriving DecidableEq, Repr

inductive Received where
  | event (e : Event)
  | pending
  | closed
  deriving DecidableEq, Repr

namespace Channel

/-! ### The buffer -/

/-- The room that one event takes in a buffer, in bytes. -/
def slotBytes : Nat := 40

def maxBytes : Nat := Nat.pow 2 63 - 1

/-- How many events a buffer for `capacity` of them holds: at least one, and a power of two. -/
def slots (capacity : Nat) : Nat :=
  if capacity ≤ 1 then 1 else Nat.pow 2 ((capacity - 1).log2 + 1)

/--
A channel with one sender, unless its buffer would pass the largest size that can be asked for.
That a machine may have no memory for a smaller one is left out.
-/
def new? (capacity : Nat) : Option Channel :=
  if slots capacity * slotBytes ≤ maxBytes then
    some ⟨slots capacity, [], 0, [], 0, [true]⟩
  else none

def receivers (c : Channel) : Nat := c.subscriptions.countP (·.live)

def isOpen (c : Channel) : Bool := c.senders.any id

def isSender (c : Channel) (sender : Nat) : Bool := c.senders.getD sender false

def isLive (c : Channel) (sub : Nat) : Bool := (c.subscriptions[sub]?).any (·.live)

def addSender (c : Channel) : Channel := { c with senders := c.senders ++ [true] }

def dropSender (c : Channel) (sender : Nat) : Channel :=
  { c with senders := c.senders.set sender false }

/-- A further subscription, to the events from now on. -/
def attach (c : Channel) : Channel :=
  { c with subscriptions := c.subscriptions ++ [⟨c.sent, true⟩] }

def detach (c : Channel) (sub : Nat) : Channel :=
  { c with subscriptions := c.subscriptions.modify sub ({ · with live := false }) }

/-- The event enters the buffer, and the oldest one leaves a full buffer. -/
def push (c : Channel) (e : Event) : Channel :=
  let events := c.buffer ++ [e]
  { c with buffer := events.drop (events.length - c.capacity), sent := c.sent + 1 }

/-- Sends an event to all subscriptions, and says how many those are if there is one. -/
def trySend (c : Channel) (e : Event) : Option Nat × Channel :=
  if c.receivers = 0 then (none, c) else (some c.receivers, c.push e)

def oldest (c : Channel) : Nat := c.sent - c.buffer.length

/-- One look into the buffer, and the subscription after it. -/
def poll (c : Channel) (sub : Subscription) : Poll × Subscription :=
  if sub.next < c.oldest then (.lagged (c.oldest - sub.next), { sub with next := c.oldest })
  else match c.buffer[sub.next - c.oldest]? with
    | some e => (.event e, { sub with next := sub.next + 1 })
    | none => (if c.isOpen then .empty else .closed, sub)

theorem poll_of_lt {c : Channel} {sub : Subscription} (h : sub.next < c.oldest) :
    c.poll sub = (.lagged (c.oldest - sub.next), { sub with next := c.oldest }) := if_pos h

theorem poll_of_le {c : Channel} {sub : Subscription} (h : c.oldest ≤ sub.next) :
    c.poll sub = match c.buffer[sub.next - c.oldest]? with
      | some e => (.event e, { sub with next := sub.next + 1 })
      | none => (if c.isOpen then .empty else .closed, sub) := if_neg (Nat.not_lt.mpr h)

/-- A subscription that is told of lost events is behind, and not any more after that. -/
theorem lt_of_poll_lagged {c : Channel} {sub sub' : Subscription} {skipped : Nat}
    (h : c.poll sub = (.lagged skipped, sub')) : c.oldest - sub'.next < c.oldest - sub.next := by
  rcases Nat.lt_or_ge sub.next c.oldest with hlt | hge
  · rw [poll_of_lt hlt] at h
    cases h
    simp only
    omega
  · rw [poll_of_le hge] at h
    split at h
    · cases h
    · split at h <;> cases h

/-! ### Subscribing, broadcasting and receiving -/

def subscribe (c : Channel) : Channel := { c.attach with subscribers := c.subscribers + 1 }

/-- A subscription ends, if it is held. -/
def unsubscribe (c : Channel) (sub : Nat) : Channel :=
  if c.isLive sub then { c.detach sub with subscribers := c.subscribers - 1 } else c

/-- Sends an event, and says how many subscriptions it reaches. -/
def broadcast (c : Channel) (e : Event) : Nat × Channel :=
  match c.trySend e with
  | (some receivers, c) => (receivers, c)
  | (none, c) => (0, c)

def send (c : Channel) (e : Event) : Channel := (c.broadcast e).2

/-- Polls again as long as it is told of lost events, and keeps how many those were. -/
def await (c : Channel) (sub : Subscription) : List Nat × Received × Subscription :=
  match _h : c.poll sub with
  | (.lagged skipped, sub') =>
    let (skips, received) := c.await sub'
    (skipped :: skips, received)
  | (.event e, sub') => ([], .event e, sub')
  | (.empty, sub') => ([], .pending, sub')
  | (.closed, sub') => ([], .closed, sub')
termination_by c.oldest - sub.next
decreasing_by exact lt_of_poll_lagged _h

/-- What a held subscription is given, and the channel after that. -/
def recv (c : Channel) (sub : Nat) : Option (Received × Channel) :=
  match c.subscriptions[sub]? with
  | some s =>
    if s.live then
      let (_, received, s) := c.await s
      some (received, { c with subscriptions := c.subscriptions.set sub s })
    else none
  | none => none

/-! ### The log of a channel -/

def subscribeLine (c : Channel) : Log.Line :=
  .debug s!"Reload client subscribed ({c.subscribers + 1} total subscribers)"

def unsubscribeLines (c : Channel) (sub : Nat) : List Log.Line :=
  if c.isLive sub then
    [.debug s!"Reload client unsubscribed ({c.subscribers - 1} remaining subscribers)"]
  else []

def sendLine (c : Channel) (e : Event) : Log.Line :=
  match (c.trySend e).1 with
  | some receivers => .debug s!"Broadcast {e.name} to {receivers} reload clients"
  | none => .debug s!"Broadcast {e.name} had no active receivers"

def lagLine (skipped : Nat) : Log.Line :=
  .warn s!"Reload client lagged, skipped {skipped} events"

def recvLines (c : Channel) (sub : Nat) : List Log.Line :=
  match c.subscriptions[sub]? with
  | some s => if s.live then (c.await s).1.map lagLine else []
  | none => []

end Channel

end DevServer.Reload
