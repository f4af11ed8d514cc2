import DevServer.Reload.Channel

/-!
# Using a channel

A channel is used by those who hold its senders and subscriptions. `Uses c x c'` lists what they can
do to `c`, with what they are answered and what is logged in the entry `x`; one that is not held
cannot be used. `Used capacity h c` is a run from a new channel, with all its entries in `h`.

A subscription takes part from where it was made. `since k h` are the entries of `h` after that, and
`notices`, `received` and `logged` read off what they hold for subscription `k`: the events that were
sent and its own reads, the events that it was given, and the lines that its reads left in the log.
-/

namespace DevServer.Reload

/-- What the holder of a sender or a subscription can do; those are known by number. -/
inductive Use where
  | subscribe (sender : Nat)
  | unsubscribe (sub : Nat)
  | broadcast (sender : Nat) (e : Event)
  /-- Sends an event without asking how many it reaches. -/
  | publish (sender : Nat) (e : Event)
  | recv (sub : Nat)
  | clone (sender : Nat)
  | drop (sender : Nat)
  deriving DecidableEq, Repr

inductive Reply where
  | done
  | subscription (number : Nat)
  | sender (number : Nat)
  | reached (receivers : Nat)
  | received (r : Received)
  deriving DecidableEq, Repr

structure Entry where
  use : Use
  reply : Reply
  lines : List Log.Line
  deriving DecidableEq, Repr

/-- What can be done to a channel, and what becomes of it. -/
inductive Uses (c : Channel) : Entry → Channel → Prop where
  | subscribe {s : Nat} (hs : c.isSender s = true) :
    Uses c ⟨.subscribe s, .subscription c.subscriptions.length, [c.subscribeLine]⟩ c.subscribe
  | unsubscribe {k : Nat} (hk : c.isLive k = true) :
    Uses c ⟨.unsubscribe k, .done, c.unsubscribeLines k⟩ (c.unsubscribe k)
  | broadcast {s : Nat} (e : Event) (hs : c.isSender s = true) :
    Uses c ⟨.broadcast s e, .reached (c.broadcast e).1, [c.sendLine e]⟩ (c.broadcast e).2
  | publish {s : Nat} (e : Event) (hs : c.isSender s = true) :
    Uses c ⟨.publish s e, .done, [c.sendLine e]⟩ (c.send e)
  | recv {k : Nat} {r : Received} {c' : Channel} (hr : c.recv k = some (r, c')) :
    Uses c ⟨.recv k, .received r, c.recvLines k⟩ c'
  | clone {s : Nat} (hs : c.isSender s = true) :
    Uses c ⟨.clone s, .sender c.senders.length, []⟩ c.addSender
  | drop {s : Nat} (hs : c.isSender s = true) : Uses c ⟨.drop s, .done, []⟩ (c.dropSender s)

/-- A run of a channel for `capacity` events, from its beginning. -/
inductive Used (capacity : Nat) : List Entry → Channel → Prop where
  | new {c : Channel} (h : Channel.new? capacity = some c) : Used capacity [] c
  | use {h : List Entry} {c c' : Channel} {x : Entry} (hu : Used capacity h c) (hx : Uses c x c') :
    Used capacity (h ++ [x]) c'

namespace Entry

def opens (k : Nat) (x : Entry) : Bool := x.reply == .subscription k

def isClone (x : Entry) : Bool :=
  match x.use with
  | .clone _ => true
  | _ => false

def isDrop (x : Entry) : Bool :=
  match x.use with
  | .drop _ => true
  | _ => false

def reads (k : Nat) (x : Entry) : Bool := x.use == .recv k

def sent? (x : Entry) : Option Event :=
  match x.use with
  | .broadcast _ e | .publish _ e => some e
  | _ => none

def given? (x : Entry) : Option Event :=
  match x.reply with
  | .received (.event e) => some e
  | _ => none

end Entry

/-- What matters to a subscription. -/
inductive Notice where
  | sent (e : Event)
  | read
  deriving DecidableEq, Repr

def Entry.notice? (k : Nat) (x : Entry) : Option Notice :=
  if x.reads k then some .read else x.sent?.map .sent

/-- The entries after the one that made subscription `k`. -/
def since (k : Nat) : List Entry → List Entry
  | [] => []
  | x :: h => if x.opens k then h else since k h

def notices (k : Nat) (h : List Entry) : List Notice := (since k h).filterMap (·.notice? k)

/-- The events that subscription `k` has received, in order. -/
def received (k : Nat) (h : List Entry) : List Event :=
  ((since k h).filter (·.reads k)).filterMap (·.given?)

/-- The lines that each read of subscription `k` has left in the log. -/
def logged (k : Nat) (h : List Entry) : List (List Log.Line) :=
  ((since k h).filter (·.reads k)).map (·.lines)

/-- Whether a sender is left: one was there at first, and some were made and some dropped. -/
def hasSender (h : List Entry) : Bool := h.countP (·.isDrop) < h.countP (·.isClone) + 1

theorem since_concat {k : Nat} {h : List Entry} (hk : h.any (·.opens k) = true) (x : Entry) :
    since k (h ++ [x]) = since k h ++ [x] := by
  induction h with
  | nil => simp at hk
  | cons y h ih =>
    by_cases hy : y.opens k = true
    · simp [since, hy]
    · have hk : h.any (·.opens k) = true := by simpa [hy] using hk
      simpa [since, hy] using ih hk

/-- A subscription that is made just now has taken part in nothing. -/
theorem since_concat_of_not_opened {k : Nat} {h : List Entry} (hk : h.any (·.opens k) = false)
    (x : Entry) : since k (h ++ [x]) = [] := by
  induction h with
  | nil => simp [since]
  | cons y h ih =>
    obtain ⟨hy, hk⟩ : y.opens k = false ∧ h.any (·.opens k) = false := by simpa using hk
    simpa [since, hy] using ih hk

theorem notices_concat {k : Nat} {h : List Entry} (hk : h.any (·.opens k) = true) (x : Entry) :
    notices k (h ++ [x]) = notices k h ++ (x.notice? k).toList := by
  rw [notices, since_concat hk, List.filterMap_append, notices]
  cases hx : x.notice? k <;> simp [hx]

theorem received_concat {k : Nat} {h : List Entry} (hk : h.any (·.opens k) = true) (x : Entry) :
    received k (h ++ [x]) = received k h ++ if x.reads k then x.given?.toList else [] := by
  rw [received, since_concat hk, List.filter_append, List.filterMap_append, received]
  cases hr : x.reads k <;> cases hx : x.given? <;> simp [hr, hx]

theorem logged_concat {k : Nat} {h : List Entry} (hk : h.any (·.opens k) = true) (x : Entry) :
    logged k (h ++ [x]) = logged k h ++ if x.reads k then [x.lines] else [] := by
  rw [logged, since_concat hk, List.filter_append, List.map_append, logged]
  cases hr : x.reads k <;> simp [hr]

end DevServer.Reload
