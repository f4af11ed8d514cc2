import DevServer.Proofs.Reload.Buffer
import Mathlib

/-!
# Delivery of events

The channel gives every subscription what its reader is due (`events_delivered`), in every run and
whatever else is done in it. The invariant is `Serves`; `Told` says that the entries of a run agree
with the readers.
-/

namespace DevServer.Reload

/-! ### Runs -/

/-- The reader that subscription `k` is after a run. -/
def reader (room k : Nat) (h : List Entry) : Reader := .of room (notices k h)

/-- What the entries of a run say of subscription `k` is what its reader says. -/
structure Told (room k : Nat) (h : List Entry) : Prop where
  received : received k h = (reader room k h).taken
  /-- Each read has logged how many events it skipped, and those count as passed. -/
  logged : ∃ skips : List Nat, logged k h = skips.map skipLines ∧
    (reader room k h).got.length + skips.sum = (reader room k h).next

section
variable {room k : Nat} {h : List Entry} {x : Entry}

theorem reader_concat (hk : h.any (·.opens k) = true) {n : Notice} (hn : x.notice? k = some n) :
    reader room k (h ++ [x]) = (reader room k h).take room n := by
  rw [reader, notices_concat hk, hn, Option.toList_some, Reader.of_concat, reader]

theorem reader_concat_of_none (hk : h.any (·.opens k) = true) (hn : x.notice? k = none) :
    reader room k (h ++ [x]) = reader room k h := by
  rw [reader, notices_concat hk, hn, Option.toList_none, List.append_nil, reader]

theorem reader_of_since (hs : since k h = []) : reader room k h = .new := by
  rw [reader, notices, hs]
  rfl

end

namespace Told

variable {room k : Nat} {h : List Entry} {x : Entry}

/-- A subscription that has taken part in nothing. -/
theorem of_since (hs : since k h = []) : Told room k h where
  received := by rw [Reload.received, hs, reader_of_since hs]; rfl
  logged := ⟨[], by rw [Reload.logged, hs]; rfl, by rw [reader_of_since hs]; rfl⟩

theorem quiet (ht : Told room k h) (hk : h.any (·.opens k) = true) (hr : x.reads k = false)
    (hs : x.sent? = none) : Told room k (h ++ [x]) := by
  have hnone : x.notice? k = none := by simp [Entry.notice?, hr, hs]
  have hreader : reader room k (h ++ [x]) = reader room k h := reader_concat_of_none hk hnone
  constructor
  case received => simpa [received_concat hk, hr, hreader] using ht.received
  case logged => simpa [logged_concat hk, hr, hreader] using ht.logged

theorem sent (ht : Told room k h) (hk : h.any (·.opens k) = true) (hr : x.reads k = false)
    {e : Event} (hs : x.sent? = some e) : Told room k (h ++ [x]) := by
  have hsome : x.notice? k = some (.sent e) := by simp [Entry.notice?, hr, hs]
  have hreader : reader room k (h ++ [x]) = (reader room k h).take room (.sent e) :=
    reader_concat hk hsome
  constructor
  case received =>
    have htaken : ((reader room k h).take room (.sent e)).taken = (reader room k h).taken :=
      (Reader.orderly_of room _).taken_sent e
    rw [received_concat hk, hr, hreader, htaken, ht.received]
    simp
  case logged =>
    obtain ⟨skips, hl, hsum⟩ := ht.logged
    refine ⟨skips, ?_, ?_⟩
    · rw [logged_concat hk, hr, hl]
      simp
    · rw [hreader]
      exact hsum

/-- A read that gives and logs what the reader is due. -/
theorem read (ht : Told room k h) (hroom : 0 < room) (hk : h.any (·.opens k) = true) (isOpen : Bool)
    (hu : x.use = .recv k) (hr : x.reply = .received ((reader room k h).gives room isOpen))
    (hl : x.lines = skipLines ((reader room k h).due room - (reader room k h).next)) :
    Told room k (h ++ [x]) := by
  have hreads : x.reads k = true := by simp [Entry.reads, hu]
  have hsome : x.notice? k = some .read := by simp [Entry.notice?, hreads]
  have hreader : reader room k (h ++ [x]) = (reader room k h).take room .read :=
    reader_concat hk hsome
  obtain ⟨skips, hskips, hsum⟩ := ht.logged
  have hle : (reader room k h).next ≤ (reader room k h).due room := Reader.next_le_due
  have hlogged : Reload.logged k (h ++ [x]) =
      (skips ++ [(reader room k h).due room - (reader room k h).next]).map skipLines := by
    rw [logged_concat hk, hreads, hskips, hl]
    simp
  rcases Nat.lt_or_ge ((reader room k h).due room) (reader room k h).events.length with hd | hd
  · have hgiven : x.given? = some (reader room k h).events[(reader room k h).due room] := by
      rw [Entry.given?, hr, Reader.gives_of_lt hd]
    constructor
    case received =>
      rw [received_concat hk, hreads, hreader, Reader.taken_read_of_lt hd, ht.received, hgiven]
      simp
    case logged =>
      refine ⟨_, hlogged, ?_⟩
      rw [hreader, Reader.take_read_of_lt hd, Reader.next_concat]
      simp only [List.length_append, List.length_singleton, List.sum_append, List.sum_singleton]
      omega
  · have hgiven : x.given? = none := by
      rw [Entry.given?, hr, Reader.gives_of_le hd]
      cases isOpen <;> rfl
    have hdue : (reader room k h).due room = (reader room k h).next := Reader.due_eq_next hroom hd
    constructor
    case received =>
      rw [received_concat hk, hreads, hreader, Reader.take_read_of_le hd, ht.received, hgiven]
      simp
    case logged =>
      refine ⟨_, hlogged, ?_⟩
      rw [hreader, Reader.take_read_of_le hd, List.sum_append, List.sum_singleton]
      omega

end Told

/-- The channel after a run gives every subscription what its reader is due. -/
structure Serves (room : Nat) (h : List Entry) (c : Channel) : Prop where
  place : ∃ log, Holds room log c ∧ ∀ (k : Nat) (s : Subscription),
    c.subscriptions[k]? = some s → s.live = true → Follows log (reader room k h) s
  opened : ∀ k, h.any (·.opens k) = true ↔ k < c.subscriptions.length
  senders : c.senders.countP id + h.countP (·.isDrop) = h.countP (·.isClone) + 1
  told : ∀ k, Told room k h

namespace Serves

variable {room capacity : Nat} {h : List Entry} {c c' : Channel} {x : Entry}

theorem new (hc : Channel.new? capacity = some c) : Serves (Channel.slots capacity) [] c := by
  unfold Channel.new? at hc
  split at hc
  case isFalse => cases hc
  case isTrue =>
    cases hc
    refine ⟨⟨[], ⟨rfl, rfl, (List.drop_nil ..).symm⟩, ?_⟩, ?_, rfl, fun k => .of_since rfl⟩
    · intro k s hs
      cases hs
    · simp

theorem opened_of_getElem? (hs : Serves room h c) {k : Nat} {s : Subscription}
    (hk : c.subscriptions[k]? = some s) : h.any (·.opens k) = true :=
  (hs.opened k).mpr (List.getElem?_eq_some_iff.mp hk).1

/-- What is told of the subscriptions there are; a new one has nothing to tell. -/
theorem told_concat (hx : ∀ k, h.any (·.opens k) = true → Told room k (h ++ [x])) (k : Nat) :
    Told room k (h ++ [x]) := by
  cases hk : h.any (·.opens k) with
  | true => exact hx k hk
  | false => exact .of_since (since_concat_of_not_opened hk x)

theorem opened_concat (hs : Serves room h c) (hx : ∀ k, x.opens k = false)
    (hlen : c'.subscriptions.length = c.subscriptions.length) (k : Nat) :
    (h ++ [x]).any (·.opens k) = true ↔ k < c'.subscriptions.length := by
  rw [List.any_append, hlen, ← hs.opened k]
  simp [hx k]

/-- A use that sends nothing and reads nothing, and does not make a subscription. -/
theorem quiet (hs : Serves room h c) (hsent : x.sent? = none) (hreads : ∀ k, x.reads k = false)
    (hopens : ∀ k, x.opens k = false) (hbuffer : c'.buffer = c.buffer)
    (hcapacity : c'.capacity = c.capacity) (hcount : c'.sent = c.sent)
    (hlen : c'.subscriptions.length = c.subscriptions.length)
    (hsubs : ∀ (k : Nat) (s : Subscription), c'.subscriptions[k]? = some s → s.live = true →
      c.subscriptions[k]? = some s)
    (hsenders : c'.senders.countP id + (h ++ [x]).countP (·.isDrop) =
      (h ++ [x]).countP (·.isClone) + 1) : Serves room (h ++ [x]) c' where
  place := by
    obtain ⟨log, hl, hf⟩ := hs.place
    refine ⟨log, ⟨hcapacity.trans hl.capacity, hcount.trans hl.sent, hbuffer.trans hl.buffer⟩, ?_⟩
    intro k s hk hlive
    have hk : c.subscriptions[k]? = some s := hsubs k s hk hlive
    have hnone : x.notice? k = none := by simp [Entry.notice?, hreads, hsent]
    rw [reader_concat_of_none (hs.opened_of_getElem? hk) hnone]
    exact hf k s hk hlive
  opened := hs.opened_concat hopens hlen
  senders := hsenders
  told := told_concat fun k hk => (hs.told k).quiet hk (hreads k) hsent

theorem subscribe (hs : Serves room h c) (sender : Nat) (lines : List Log.Line) :
    Serves room (h ++ [⟨.subscribe sender, .subscription c.subscriptions.length, lines⟩])
      c.subscribe where
  place := by
    obtain ⟨log, hl, hf⟩ := hs.place
    refine ⟨log, ⟨hl.capacity, hl.sent, hl.buffer⟩, ?_⟩
    intro k s hk hlive
    have hk : (c.subscriptions ++ [⟨c.sent, true⟩])[k]? = some s := hk
    rcases Nat.lt_or_ge k c.subscriptions.length with hlt | hge
    · rw [List.getElem?_append_left hlt] at hk
      rw [reader_concat_of_none (hs.opened_of_getElem? hk) rfl]
      exact hf k s hk hlive
    · have hnot : h.any (·.opens k) = false := by
        rw [← Bool.not_eq_true, hs.opened k]
        omega
      have hnew : s = ⟨log.length, true⟩ := by
        rw [List.getElem?_append_right hge] at hk
        have hmem : s ∈ [(⟨c.sent, true⟩ : Subscription)] := List.mem_of_getElem? hk
        rw [List.mem_singleton.mp hmem, hl.sent]
      rw [reader_of_since (since_concat_of_not_opened hnot _), hnew]
      exact .new log true
  opened k := by
    rw [List.any_append, Bool.or_eq_true, hs.opened k]
    simp [Entry.opens, Channel.subscribe, Channel.attach]
    omega
  senders := by
    simpa [Channel.subscribe, Channel.attach, List.countP_append, Entry.isDrop, Entry.isClone]
      using hs.senders
  told := told_concat fun k hk => (hs.told k).quiet hk rfl rfl

theorem unsubscribe (hs : Serves room h c) {k : Nat} (hk : c.isLive k = true)
    (lines : List Log.Line) :
    Serves room (h ++ [⟨.unsubscribe k, .done, lines⟩]) (c.unsubscribe k) := by
  rw [Channel.unsubscribe_of_isLive hk]
  refine hs.quiet rfl (fun _ => rfl) (fun _ => rfl) rfl rfl rfl (List.length_modify ..) ?_ ?_
  · intro i s hi hlive
    rw [Channel.detach, List.getElem?_modify] at hi
    obtain ⟨t, ht, he⟩ := Option.map_eq_some_iff.mp hi
    rcases eq_or_ne k i with rfl | hne
    · rw [if_pos rfl] at he
      rw [← he] at hlive
      cases hlive
    · rw [if_neg hne] at he
      exact he ▸ ht
  · simpa [Channel.detach, List.countP_append, Entry.isDrop, Entry.isClone] using hs.senders

theorem clone (hs : Serves room h c) (sender : Nat) (reply : Nat) :
    Serves room (h ++ [⟨.clone sender, .sender reply, []⟩]) c.addSender := by
  refine hs.quiet rfl (fun _ => rfl) (fun _ => rfl) rfl rfl rfl rfl (fun _ _ hk _ => hk) ?_
  have hn := hs.senders
  simp only [Channel.addSender, List.countP_append, Entry.isDrop, Entry.isClone,
    List.countP_singleton] at hn ⊢
  simp only [id, if_true, Bool.false_eq_true, if_false]
  omega

theorem drop (hs : Serves room h c) {sender : Nat} (hheld : c.isSender sender = true) :
    Serves room (h ++ [⟨.drop sender, .done, []⟩]) (c.dropSender sender) := by
  refine hs.quiet rfl (fun _ => rfl) (fun _ => rfl) rfl rfl rfl rfl (fun _ _ hk _ => hk) ?_
  have hn := hs.senders
  have hcount := Channel.countP_dropSender hheld
  simp only [List.countP_append, Entry.isDrop, Entry.isClone, List.countP_singleton] at hn ⊢
  simp only [if_true, Bool.false_eq_true, if_false]
  omega

/-- An event is added to the log, or nobody is there to miss it. -/
theorem send (hs : Serves room h c) {e : Event} (hsent : x.sent? = some e)
    (hreads : ∀ k, x.reads k = false) (hopens : ∀ k, x.opens k = false)
    (hdrop : x.isDrop = false) (hclone : x.isClone = false) :
    Serves room (h ++ [x]) (c.send e) := by
  have hnotice : ∀ k, x.notice? k = some (.sent e) := fun k => by
    simp [Entry.notice?, hreads, hsent]
  have hlen : (c.send e).subscriptions = c.subscriptions := by
    rw [Channel.send_eq]; split <;> rfl
  have hsenders : (c.send e).senders = c.senders := by
    rw [Channel.send_eq]; split <;> rfl
  constructor
  case place =>
    obtain ⟨log, hl, hf⟩ := hs.place
    rw [hlen]
    rw [Channel.send_eq]
    split
    case isTrue h0 =>
      exact ⟨log, hl, fun k s hk hlive => absurd hlive (Channel.not_live_of_receivers_eq_zero h0 hk)⟩
    case isFalse =>
      refine ⟨log ++ [e], hl.push e, fun k s hk hlive => ?_⟩
      rw [reader_concat (hs.opened_of_getElem? hk) (hnotice k)]
      exact (hf k s hk hlive).sent e
  case opened => exact hs.opened_concat hopens (congrArg List.length hlen)
  case senders => simpa [hsenders, List.countP_append, hdrop, hclone] using hs.senders
  case told => exact told_concat fun k hk => (hs.told k).sent hk (hreads k) hsent

theorem recv (hs : Serves room h c) (hroom : 0 < room) {k : Nat} {r : Received}
    (hr : c.recv k = some (r, c')) :
    Serves room (h ++ [⟨.recv k, .received r, c.recvLines k⟩]) c' := by
  obtain ⟨s, hk, hlive, rfl, rfl⟩ := Channel.recv_eq_some_iff.mp hr
  obtain ⟨log, hl, hf⟩ := hs.place
  have hfollows : Follows log (reader room k h) s := hf k s hk hlive
  have hopened : h.any (·.opens k) = true := hs.opened_of_getElem? hk
  constructor
  case place =>
    refine ⟨log, ⟨hl.capacity, hl.sent, hl.buffer⟩, fun i t hi hi' => ?_⟩
    have hi : (c.subscriptions.set k (c.advance s))[i]? = some t := hi
    rw [List.getElem?_set] at hi
    rcases eq_or_ne k i with rfl | hne
    · have ht : c.advance s = t := by
        rw [if_pos rfl, if_pos (List.getElem?_eq_some_iff.mp hk).1] at hi
        exact Option.some.inj hi
      rw [reader_concat hopened (n := .read) (by simp [Entry.notice?, Entry.reads]), ← ht]
      exact hfollows.read hl hroom
    · rw [if_neg hne] at hi
      have hnone : Entry.notice? i ⟨.recv k, .received (c.peek s), c.recvLines k⟩ = none := by
        simp [Entry.notice?, Entry.reads, Entry.sent?, hne]
      rw [reader_concat_of_none (hs.opened_of_getElem? hi) hnone]
      exact hf i t hi hi'
  case opened => exact hs.opened_concat (fun _ => rfl) (by simp)
  case senders => simpa [List.countP_append, Entry.isDrop, Entry.isClone] using hs.senders
  case told =>
    refine told_concat fun i hi => ?_
    rcases eq_or_ne k i with rfl | hne
    · refine (hs.told k).read hroom hi c.isOpen rfl ?_ ?_
      · rw [hfollows.peek hl]
      · rw [Channel.recvLines_of_live hk hlive, hfollows.skipped hl]
    · exact (hs.told i).quiet hi (by simp [Entry.reads, hne]) rfl

/-- One use keeps it so. -/
theorem uses (hs : Serves room h c) (hroom : 0 < room) (hx : Uses c x c') :
    Serves room (h ++ [x]) c' := by
  cases hx with
  | subscribe => exact hs.subscribe ..
  | unsubscribe hk => exact hs.unsubscribe hk _
  | broadcast e => exact hs.send rfl (fun _ => rfl) (fun _ => rfl) rfl rfl
  | publish e => exact hs.send rfl (fun _ => rfl) (fun _ => rfl) rfl rfl
  | recv hr => exact hs.recv hroom hr
  | clone => exact hs.clone ..
  | drop hheld => exact hs.drop hheld

/-- A sender is held as long as not all that were made have been dropped. -/
theorem isOpen_eq (hs : Serves room h c) : c.isOpen = hasSender h := by
  have hn := hs.senders
  rw [Bool.eq_iff_iff, Channel.isOpen, List.any_eq_true, hasSender, decide_eq_true_eq,
    ← List.countP_pos_iff]
  omega

end Serves

theorem Used.serves {capacity : Nat} {h : List Entry} {c : Channel} (hu : Used capacity h c) :
    Serves (Channel.slots capacity) h c := by
  induction hu with
  | new hc => exact .new hc
  | use _ hx ih => exact ih.uses (Channel.slots_pos capacity) hx

/-! ### Delivery -/

theorem events_reader (room k : Nat) (h : List Entry) :
    (reader room k h).events = (since k h).filterMap (·.sent?) := by
  rw [reader, Reader.events_of, notices, List.filterMap_filterMap]
  refine List.filterMap_congr fun x _ => ?_
  unfold Entry.notice? Entry.reads Entry.sent?
  cases hu : x.use <;> simp [Notice.event?]

theorem Used.recv_eq {capacity : Nat} {h : List Entry} {c : Channel} (hu : Used capacity h c)
    {k : Nat} (hk : c.isLive k = true) :
    (∃ c', c.recv k =
        some ((reader (Channel.slots capacity) k h).gives (Channel.slots capacity) (hasSender h), c')) ∧
      c.recvLines k = skipLines ((reader (Channel.slots capacity) k h).due (Channel.slots capacity) -
        (reader (Channel.slots capacity) k h).next) := by
  obtain ⟨s, hs, hl⟩ := Channel.exists_of_isLive hk
  obtain ⟨log, hlog, hf⟩ := hu.serves.place
  have hfollows : Follows log (reader (Channel.slots capacity) k h) s := hf k s hs hl
  constructor
  · refine ⟨_, Channel.recv_eq_some_iff.mpr ⟨s, hs, hl, ?_, rfl⟩⟩
    rw [hfollows.peek hlog, hu.serves.isOpen_eq]
  · rw [Channel.recvLines_of_live hs hl, hfollows.skipped hlog]

/-- What a reader says of subscription `k` after a run; `room` events are kept. -/
structure Delivered (room : Nat) (h : List Entry) (c : Channel) (k : Nat) (r : Reader) : Prop where
  /-- The reader knows what was sent since the subscription was made. -/
  events : r.events = (since k h).filterMap (·.sent?)
  /-- A read gives the event that is due, also when no sender is left. -/
  event : ∀ e, r.events[r.due room]? = some e → ∃ c', c.recv k = some (.event e, c')
  /-- Without such an event it waits for one, or ends when no sender is left. -/
  pending : r.events.length ≤ r.due room → hasSender h = true →
    ∃ c', c.recv k = some (.pending, c')
  closed : r.events.length ≤ r.due room → hasSender h = false →
    ∃ c', c.recv k = some (.closed, c')
  /-- What a read skips is logged. -/
  reported : c.recvLines k = skipLines (r.due room - r.next)
  received : received k h = r.taken
  increasing : r.got.Pairwise (· < ·)
  below : ∀ n ∈ r.got, n < r.events.length
  sublist : r.taken.Sublist r.events
  /-- Every event that was passed was received or was reported as skipped. -/
  accounted : ∃ skips : List Nat, logged k h = skips.map skipLines ∧
    r.got.length + skips.sum = r.next

/-- **Every subscription reads the log of what was sent since it was made**, from where it is or
from the oldest event that the buffer keeps; its size is `capacity` rounded up to a power of two.
It takes no part in this what other subscriptions do: two that have had the same notices, in whatever
runs, have received and logged the same and are given the same. -/
theorem events_delivered {capacity : Nat} {h : List Entry} {c : Channel} (hu : Used capacity h c)
    {k : Nat} (hk : c.isLive k = true) :
    (∃ j, Channel.slots capacity = Nat.pow 2 j ∧ max capacity 1 ≤ Nat.pow 2 j ∧
      ∀ i, max capacity 1 ≤ Nat.pow 2 i → j ≤ i) ∧
    Delivered (Channel.slots capacity) h c k (reader (Channel.slots capacity) k h) ∧
    ∀ (h' : List Entry) (c' : Channel) (k' : Nat), Used capacity h' c' → c'.isLive k' = true →
      notices k' h' = notices k h →
        received k' h' = received k h ∧ c'.recvLines k' = c.recvLines k ∧
        (hasSender h' = hasSender h → (c'.recv k').map Prod.fst = (c.recv k).map Prod.fst) := by
  refine ⟨Channel.exists_slots_eq capacity, ?_, ?_⟩
  · obtain ⟨⟨c', hrecv⟩, hlines⟩ := hu.recv_eq hk
    have horderly := Reader.orderly_of (Channel.slots capacity) (notices k h)
    have htold := hu.serves.told k
    constructor
    case events => exact events_reader ..
    case event =>
      intro e he
      rw [Reader.gives, he] at hrecv
      exact ⟨c', hrecv⟩
    case pending =>
      intro hd hs
      rw [Reader.gives_of_le hd, hs] at hrecv
      exact ⟨c', hrecv⟩
    case closed =>
      intro hd hs
      rw [Reader.gives_of_le hd, hs] at hrecv
      exact ⟨c', hrecv⟩
    case reported => exact hlines
    case received => exact htold.received
    case increasing => exact horderly.increasing
    case below => exact horderly.below
    case sublist => exact horderly.sublist.trans (List.take_sublist ..)
    case accounted => exact htold.logged
  · intro h' c' k' hu' hk' hn
    obtain ⟨⟨d, hrecv⟩, hlines⟩ := hu.recv_eq hk
    obtain ⟨⟨d', hrecv'⟩, hlines'⟩ := hu'.recv_eq hk'
    have hreader : reader (Channel.slots capacity) k' h' = reader (Channel.slots capacity) k h :=
      congrArg (Reader.of _) hn
    refine ⟨?_, ?_, fun hs => ?_⟩
    · rw [(hu'.serves.told k').received, (hu.serves.told k).received, hreader]
    · rw [hlines', hlines, hreader]
    · rw [hrecv', hrecv, hreader, hs]
      rfl

/-- Two slots and five events: a subscription is behind by three, is told so, and reads on to the
end after the last sender is gone. -/
theorem events_delivered_behind : ∃ (h : List Entry) (c : Channel), Used 2 h c ∧
    c.isLive 0 = true ∧ hasSender h = false ∧ received 0 h = [.clientBuilt 4] ∧
    logged 0 h = [[.warn "Reload client lagged, skipped 3 events"]] ∧
    ∃ c', c.recv 0 = some (.event (.clientBuilt 5), c') := by
  have h₀ : Used 2 [] _ := .new (if_pos (by decide))
  have h₁ := (h₀.use (.subscribe (s := 0) rfl)).use (.broadcast (s := 0) (.clientBuilt 1) rfl)
  have h₂ := (h₁.use (.clone (s := 0) rfl)).use (.publish (s := 1) (.clientBuilt 2) rfl)
  have h₃ := (h₂.use (.subscribe (s := 1) rfl)).use (.publish (s := 0) (.clientBuilt 3) rfl)
  have h₄ := (h₃.use (.drop (s := 0) rfl)).use (.publish (s := 1) (.clientBuilt 4) rfl)
  have h₅ := (h₄.use (.publish (s := 1) (.clientBuilt 5) rfl)).use (.read (k := 0) rfl rfl)
  have h₆ := (h₅.use (.unsubscribe (k := 1) rfl)).use (.drop (s := 1) rfl)
  obtain ⟨-, hd, -⟩ := events_delivered h₆ (k := 0) rfl
  exact ⟨_, _, h₆, rfl, rfl, hd.received, rfl, hd.event _ rfl⟩

end DevServer.Reload
