import DevServer.Proofs.Reload.Usage
import Mathlib.Data.List.Basic
import Mathlib.Data.List.Induction

/-!
# Readers

A `Reader` is what a subscription is to its holder: a place in the list of all events that were
broadcast since it was made. It knows of no other subscription, and of the buffer only the size
`room`: `due` is the number of the event that comes next. Whatever it notices, it receives events in
their order, each at most once (`orderly_of`).
-/

namespace DevServer.Reload

def Notice.event? : Notice → Option Event
  | .sent e => some e
  | .read => none

/-- A subscription as its holder sees it. -/
structure Reader where
  /-- The events that were broadcast since the subscription was made, numbered from 0. -/
  events : List Event
  /-- The numbers of the events that it has received, in order. -/
  got : List Nat
  deriving DecidableEq, Repr

/-- The lines that say that some events were skipped, if any were. -/
def skipLines (skipped : Nat) : List Log.Line :=
  if skipped = 0 then [] else [Channel.lagLine skipped]

namespace Reader

def new : Reader := ⟨[], []⟩

/-- One more than the number of the last event that was received. -/
def next (r : Reader) : Nat := r.got.getLast?.elim 0 (· + 1)

/-- The number of the event that comes next, if the last `room` events are kept. -/
def due (room : Nat) (r : Reader) : Nat := max r.next (r.events.length - room)

def take (room : Nat) (r : Reader) : Notice → Reader
  | .sent e => { r with events := r.events ++ [e] }
  | .read => if r.due room < r.events.length then { r with got := r.got ++ [r.due room] } else r

/-- The reader that has had these notices. -/
def of (room : Nat) (ns : List Notice) : Reader := ns.foldl (take room) new

/-- What a read gives. -/
def gives (room : Nat) (r : Reader) (isOpen : Bool) : Received :=
  match r.events[r.due room]? with
  | some e => .event e
  | none => if isOpen then .pending else .closed

/-- The events that were received. -/
def taken (r : Reader) : List Event := r.got.filterMap (r.events[·]?)

/-- Events are received in order, each at most once. -/
structure Orderly (r : Reader) : Prop where
  increasing : r.got.Pairwise (· < ·)
  below : ∀ n ∈ r.got, n < r.events.length
  sublist : r.taken.Sublist (r.events.take r.next)

variable {room : Nat} {r : Reader}

@[simp] theorem next_new : new.next = 0 := rfl

theorem next_concat (events : List Event) (got : List Nat) (n : Nat) :
    next ⟨events, got ++ [n]⟩ = n + 1 := by
  simp [next]

theorem of_concat (room : Nat) (ns : List Notice) (n : Notice) :
    of room (ns ++ [n]) = (of room ns).take room n :=
  List.foldl_concat ..

theorem next_le_due : r.next ≤ r.due room := Nat.le_max_left ..

/-- Nothing is skipped where there is nothing to be given. -/
theorem due_eq_next (hroom : 0 < room) (hd : r.events.length ≤ r.due room) :
    r.due room = r.next := by
  unfold due at hd ⊢
  omega

theorem take_read_of_lt (hd : r.due room < r.events.length) :
    r.take room .read = { r with got := r.got ++ [r.due room] } := if_pos hd

theorem take_read_of_le (hd : r.events.length ≤ r.due room) : r.take room .read = r :=
  if_neg (Nat.not_lt.mpr hd)

theorem events_take_read : (r.take room .read).events = r.events := by
  simp only [take]
  split <;> rfl

theorem gives_of_lt (hd : r.due room < r.events.length) (isOpen : Bool) :
    r.gives room isOpen = .event r.events[r.due room] := by
  rw [gives, List.getElem?_eq_getElem hd]

theorem gives_of_le (hd : r.events.length ≤ r.due room) (isOpen : Bool) :
    r.gives room isOpen = if isOpen then .pending else .closed := by
  rw [gives, List.getElem?_eq_none hd]

theorem taken_read_of_lt (hd : r.due room < r.events.length) :
    (r.take room .read).taken = r.taken ++ [r.events[r.due room]] := by
  rw [take_read_of_lt hd, taken, List.filterMap_append]
  simp [taken, List.getElem?_eq_getElem hd]

namespace Orderly

theorem lt_next (h : r.Orderly) {n : Nat} (hn : n ∈ r.got) : n < r.next := by
  obtain ⟨events, got⟩ := r
  rcases List.eq_nil_or_concat got with rfl | ⟨l, last, rfl⟩
  · cases hn
  · rw [List.concat_eq_append] at hn h ⊢
    rw [next_concat]
    rcases List.mem_append.mp hn with hn | hn
    · have hlt : n < last := (List.pairwise_append.mp h.increasing).2.2 n hn last (by simp)
      exact Nat.lt_succ_of_lt hlt
    · rw [List.mem_singleton.mp hn]
      exact Nat.lt_succ_self last

theorem next_le (h : r.Orderly) : r.next ≤ r.events.length := by
  obtain ⟨events, got⟩ := r
  rcases List.eq_nil_or_concat got with rfl | ⟨l, last, rfl⟩
  · exact Nat.zero_le _
  · rw [List.concat_eq_append] at h ⊢
    rw [next_concat]
    exact h.below last (by simp)

/-- An event that is sent later changes nothing of what was received. -/
theorem taken_sent (h : r.Orderly) (e : Event) : (r.take room (.sent e)).taken = r.taken := by
  refine List.filterMap_congr fun n hn => ?_
  exact List.getElem?_append_left (h.below n hn)

theorem sent (h : r.Orderly) (e : Event) : (r.take room (.sent e)).Orderly where
  increasing := h.increasing
  below n hn := by
    have hlt : n < r.events.length := h.below n hn
    simpa [take] using Nat.lt_succ_of_lt hlt
  sublist := by
    have htake : (r.events ++ [e]).take r.next = r.events.take r.next :=
      List.take_append_of_le_length h.next_le
    rw [h.taken_sent]
    exact htake.symm ▸ h.sublist

theorem read (h : r.Orderly) : (r.take room .read).Orderly := by
  rcases Nat.lt_or_ge (r.due room) r.events.length with hd | hd
  · have hsub : (r.take room .read).taken.Sublist (r.events.take (r.due room + 1)) := by
      rw [taken_read_of_lt hd, List.take_succ_eq_append_getElem hd]
      exact (h.sublist.trans (List.take_sublist_take_left next_le_due)).append (.refl _)
    rw [take_read_of_lt hd] at hsub ⊢
    constructor
    case increasing =>
      refine List.pairwise_append.mpr ⟨h.increasing, List.pairwise_singleton .., ?_⟩
      intro n hn m hm
      rw [List.mem_singleton.mp hm]
      exact Nat.lt_of_lt_of_le (h.lt_next hn) next_le_due
    case below =>
      intro n hn
      rcases List.mem_append.mp hn with hn | hn
      · exact h.below n hn
      · rw [List.mem_singleton.mp hn]
        exact hd
    case sublist => rwa [next_concat]
  · rwa [take_read_of_le hd]

end Orderly

/-- Whatever a subscription notices, it receives events in order. -/
theorem orderly_of (room : Nat) (ns : List Notice) : (of room ns).Orderly := by
  induction ns using List.reverseRecOn with
  | nil => exact ⟨.nil, nofun, .slnil⟩
  | append_singleton ns n ih =>
    rw [of_concat]
    cases n with
    | sent e => exact ih.sent e
    | read => exact ih.read

/-- A reader knows the events that were sent. -/
theorem events_of (room : Nat) (ns : List Notice) :
    (of room ns).events = ns.filterMap Notice.event? := by
  induction ns using List.reverseRecOn with
  | nil => rfl
  | append_singleton ns n ih =>
    rw [of_concat, List.filterMap_append, ← ih]
    cases n with
    | sent e => rfl
    | read => rw [events_take_read]; exact (List.append_nil _).symm

end Reader

end DevServer.Reload
