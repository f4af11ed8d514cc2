import DevServer.Proofs.Reload.Reader

/-!
# The buffer of a channel

A read polls until it is not told of lost events, and `await_eq` says without a loop what that gives.
The buffer is the end of a log of all events (`Holds`), in a number of slots that is a power of two
(`exists_slots_eq`). A subscription that `Follows` its reader in that log is given what the reader is
due, and goes on as the reader does.
-/

namespace DevServer.Reload

/-! ### The size of a buffer -/

namespace Channel

/-- The number of slots is the least power of two that has room for the events, and one at least. -/
theorem exists_slots_eq (capacity : Nat) : ∃ j, slots capacity = Nat.pow 2 j ∧
    max capacity 1 ≤ Nat.pow 2 j ∧ ∀ i, max capacity 1 ≤ Nat.pow 2 i → j ≤ i := by
  unfold slots
  split
  case isTrue hc =>
    refine ⟨0, rfl, ?_, fun i _ => Nat.zero_le i⟩
    exact Nat.max_le.mpr ⟨hc, Nat.le_refl 1⟩
  case isFalse hc =>
    have hne : capacity - 1 ≠ 0 := by omega
    refine ⟨_, rfl, ?_, fun i hi => ?_⟩
    · have hlt : capacity - 1 < Nat.pow 2 ((capacity - 1).log2 + 1) := Nat.lt_log2_self
      omega
    · have hlt : capacity - 1 < Nat.pow 2 i := by omega
      exact (Nat.log2_lt hne).mpr hlt

theorem slots_pos (capacity : Nat) : 0 < slots capacity := by
  obtain ⟨j, hj, -⟩ := exists_slots_eq capacity
  rw [hj]
  exact Nat.pow_pos (by decide)

/-- Buffers become too large where the next power of two does. -/
theorem new?_isSome_iff (capacity : Nat) : (new? capacity).isSome ↔ capacity ≤ Nat.pow 2 57 := by
  obtain ⟨j, hj, hroom, hleast⟩ := exists_slots_eq capacity
  have hfits : (new? capacity).isSome ↔ Nat.pow 2 j * slotBytes ≤ maxBytes := by
    rw [new?, hj, Option.isSome_ite]
  rw [hfits]
  constructor
  · intro h
    have hj57 : j ≤ 57 := by
      apply Decidable.byContradiction
      intro hlt
      have h58 : Nat.pow 2 58 ≤ Nat.pow 2 j := Nat.pow_le_pow_right (by decide) (by omega)
      exact absurd (Nat.le_trans (Nat.mul_le_mul_right slotBytes h58) h) (by decide)
    have hle : Nat.pow 2 j ≤ Nat.pow 2 57 := Nat.pow_le_pow_right (by decide) hj57
    omega
  · intro h
    have hj57 : j ≤ 57 := hleast 57 (Nat.max_le.mpr ⟨h, by decide⟩)
    have hle : Nat.pow 2 j ≤ Nat.pow 2 57 := Nat.pow_le_pow_right (by decide) hj57
    exact Nat.le_trans (Nat.mul_le_mul_right slotBytes hle) (by decide)

end Channel

/-! ### What a read gives -/

namespace Channel

variable (c : Channel) (s : Subscription)

/-- How many events a subscription has missed. -/
def skipped : Nat := c.oldest - s.next

/-- What a subscription is given next, also one that has missed some. -/
def peek : Received :=
  match c.buffer[max s.next c.oldest - c.oldest]? with
  | some e => .event e
  | none => if c.isOpen then .pending else .closed

/-- A subscription after it has been given what is next. -/
def advance : Subscription :=
  match c.peek s with
  | .event _ => { s with next := max s.next c.oldest + 1 }
  | .pending | .closed => { s with next := max s.next c.oldest }

/-- The loop by what the first poll answers. -/
theorem await_unfold : c.await s = match c.poll s with
    | (.lagged skipped, s') => (skipped :: (c.await s').1, (c.await s').2)
    | (.event e, s') => ([], .event e, s')
    | (.empty, s') => ([], .pending, s')
    | (.closed, s') => ([], .closed, s') := by
  rw [await]
  split <;> simp_all

variable {c s}

/-- A subscription that has missed nothing is given what the first poll answers. -/
theorem await_of_le (h : c.oldest ≤ s.next) : c.await s = ([], c.peek s, c.advance s) := by
  have hmax : max s.next c.oldest = s.next := Nat.max_eq_left h
  rw [await_unfold, poll_of_le h, advance, peek, hmax]
  cases c.buffer[s.next - c.oldest]? with
  | some e => rfl
  | none => cases c.isOpen <;> rfl

/-- **One retry is enough**: a subscription that is behind is told so once, and the second poll gives
it what is at the oldest place. -/
theorem await_eq (c : Channel) (s : Subscription) :
    c.await s = (if c.skipped s = 0 then [] else [c.skipped s], c.peek s, c.advance s) := by
  rcases Nat.lt_or_ge s.next c.oldest with hlt | hge
  · have hskipped : c.skipped s ≠ 0 := Nat.sub_ne_zero_of_lt hlt
    have hmax : max s.next c.oldest = c.oldest := Nat.max_eq_right (Nat.le_of_lt hlt)
    have hagain : c.await { s with next := c.oldest } = ([], c.peek s, c.advance s) := by
      rw [await_of_le (Nat.le_refl _)]
      simp only [advance, peek, hmax, Nat.max_self]
    rw [await_unfold, poll_of_lt hlt, if_neg hskipped]
    simp only [hagain, skipped]
  · have hskipped : c.skipped s = 0 := Nat.sub_eq_zero_of_le hge
    rw [await_of_le hge, if_pos hskipped]

end Channel

/-! ### The buffer and the log of all events -/

/-- The buffer of a channel holds the end of a log of all that was sent. -/
structure Holds (room : Nat) (log : List Event) (c : Channel) : Prop where
  capacity : c.capacity = room
  sent : c.sent = log.length
  buffer : c.buffer = log.drop (log.length - room)

namespace Holds

variable {room : Nat} {log : List Event} {c : Channel}

theorem oldest (h : Holds room log c) : c.oldest = log.length - room := by
  rw [Channel.oldest, h.sent, h.buffer, List.length_drop]
  omega

theorem push (h : Holds room log c) (e : Event) : Holds room (log ++ [e]) (c.push e) where
  capacity := h.capacity
  sent := by simp [Channel.push, h.sent]
  buffer := by
    have hb : c.buffer ++ [e] = (log ++ [e]).drop (log.length - room) := by
      rw [h.buffer, List.drop_append_of_le_length (Nat.sub_le ..)]
    simp only [Channel.push, h.capacity]
    rw [hb, List.drop_drop]
    congr 1
    simp only [List.length_drop, List.length_append, List.length_singleton]
    omega

/-- What a subscription is given is what the log has at its place, or at the oldest place kept. -/
theorem peek (h : Holds room log c) (s : Subscription) : c.peek s =
    match log[max s.next (log.length - room)]? with
    | some e => .event e
    | none => if c.isOpen then .pending else .closed := by
  have hplace : log.length - room + (max s.next (log.length - room) - (log.length - room)) =
      max s.next (log.length - room) := by omega
  have hat : c.buffer[max s.next c.oldest - c.oldest]? = log[max s.next (log.length - room)]? := by
    rw [h.oldest, h.buffer, List.getElem?_drop, hplace]
  rw [← hat]
  rfl

end Holds

/-- Where a subscription is in the log: behind what was sent before it was made, and as far on as
its reader. -/
def Follows (log : List Event) (r : Reader) (s : Subscription) : Prop :=
  ∃ past, log = past ++ r.events ∧ s.next = past.length + r.next

namespace Follows

variable {room : Nat} {log : List Event} {c : Channel} {r : Reader} {s : Subscription}

theorem new (log : List Event) (live : Bool) : Follows log .new ⟨log.length, live⟩ :=
  ⟨log, (List.append_nil log).symm, rfl⟩

/-- The place of the event that is due. -/
theorem place (past events : List Event) (room next : Nat) :
    max (past.length + next) ((past ++ events).length - room) =
      past.length + max next (events.length - room) := by
  rw [List.length_append]
  omega

theorem peek (hf : Follows log r s) (h : Holds room log c) : c.peek s = r.gives room c.isOpen := by
  obtain ⟨past, rfl, hn⟩ := hf
  rw [h.peek, hn, place, List.getElem?_append_right (Nat.le_add_right ..), Nat.add_sub_cancel_left]
  rfl

theorem skipped (hf : Follows log r s) (h : Holds room log c) :
    c.skipped s = r.due room - r.next := by
  obtain ⟨past, rfl, hn⟩ := hf
  rw [Channel.skipped, h.oldest, hn, Reader.due, List.length_append]
  omega

theorem sent (hf : Follows log r s) (e : Event) :
    Follows (log ++ [e]) (r.take room (.sent e)) s := by
  obtain ⟨past, rfl, hn⟩ := hf
  exact ⟨past, List.append_assoc .., hn⟩

/-- A subscription that is read goes on as its reader does. -/
theorem read (hf : Follows log r s) (h : Holds room log c) (hroom : 0 < room) :
    Follows log (r.take room .read) (c.advance s) := by
  have hpeek : c.peek s = r.gives room c.isOpen := hf.peek h
  obtain ⟨past, rfl, hn⟩ := hf
  unfold Channel.advance
  rcases Nat.lt_or_ge (r.due room) r.events.length with hd | hd
  · rw [hpeek, Reader.gives_of_lt hd, Reader.take_read_of_lt hd]
    refine ⟨past, rfl, ?_⟩
    rw [Reader.next_concat, h.oldest, hn, place]
    rfl
  · have hplace : max s.next c.oldest = past.length + r.next := by
      rw [h.oldest, hn, place]
      exact congrArg _ (Reader.due_eq_next hroom hd)
    rw [hpeek, Reader.gives_of_le hd, Reader.take_read_of_le hd]
    refine ⟨past, rfl, ?_⟩
    cases c.isOpen <;> exact hplace

end Follows

/-! ### What a channel does -/

namespace Channel

variable {c : Channel} {k : Nat}

theorem recv_eq_some_iff {r : Received} {c' : Channel} : c.recv k = some (r, c') ↔
    ∃ s, c.subscriptions[k]? = some s ∧ s.live = true ∧ r = c.peek s ∧
      c' = { c with subscriptions := c.subscriptions.set k (c.advance s) } := by
  unfold recv
  simp only [await_eq]
  split
  case h_1 s hs =>
    split
    case isTrue hl =>
      constructor
      · intro h
        cases h
        exact ⟨s, hs, hl, rfl, rfl⟩
      · rintro ⟨t, ht, -, rfl, rfl⟩
        cases hs.symm.trans ht
        rfl
    case isFalse hl =>
      refine ⟨nofun, ?_⟩
      rintro ⟨t, ht, hlive, -⟩
      cases hs.symm.trans ht
      exact absurd hlive hl
  case h_2 hs =>
    refine ⟨nofun, ?_⟩
    rintro ⟨t, ht, -⟩
    cases hs.symm.trans ht

theorem recvLines_of_live {s : Subscription} (hs : c.subscriptions[k]? = some s)
    (hl : s.live = true) : c.recvLines k = skipLines (c.skipped s) := by
  unfold recvLines skipLines
  simp only [hs, hl, if_true, await_eq]
  split <;> rfl

theorem exists_of_isLive (hk : c.isLive k = true) :
    ∃ s, c.subscriptions[k]? = some s ∧ s.live = true :=
  (Option.any_eq_true ..).mp hk

theorem unsubscribe_of_isLive (hk : c.isLive k = true) :
    c.unsubscribe k = { c.detach k with subscribers := c.subscribers - 1 } := if_pos hk

/-- A broadcast reaches the subscriptions that are held. -/
theorem broadcast_eq (c : Channel) (e : Event) :
    c.broadcast e = (c.receivers, if c.receivers = 0 then c else c.push e) := by
  by_cases h0 : c.receivers = 0 <;> simp [broadcast, trySend, h0]

theorem send_eq (c : Channel) (e : Event) :
    c.send e = if c.receivers = 0 then c else c.push e := by
  rw [send, broadcast_eq]

/-- Without a receiver no subscription is held. -/
theorem not_live_of_receivers_eq_zero (h0 : c.receivers = 0) {s : Subscription}
    (hs : c.subscriptions[k]? = some s) : ¬s.live = true :=
  List.countP_eq_zero.mp h0 s (List.mem_of_getElem? hs)

theorem countP_dropSender {sender : Nat} (hs : c.isSender sender = true) :
    (c.dropSender sender).senders.countP id + 1 = c.senders.countP id := by
  obtain ⟨hlt, hget⟩ : ∃ h : sender < c.senders.length, c.senders[sender] = true := by
    rw [isSender, List.getD_eq_getElem?_getD] at hs
    cases hg : c.senders[sender]? with
    | none => rw [hg] at hs; cases hs
    | some b =>
      rw [hg] at hs
      obtain ⟨hlt, hb⟩ := List.getElem?_eq_some_iff.mp hg
      exact ⟨hlt, hb.trans hs⟩
  have hpos : 0 < c.senders.countP id :=
    List.countP_pos_iff.mpr ⟨_, List.getElem_mem hlt, hget⟩
  rw [dropSender, List.countP_set hlt]
  simp only [id, hget, if_true, Bool.false_eq_true, if_false]
  omega

end Channel

/-- A read of a subscription that is held. -/
theorem Uses.read {c : Channel} {k : Nat} {s : Subscription} (hs : c.subscriptions[k]? = some s)
    (hl : s.live = true) :
    Uses c ⟨.recv k, .received (c.peek s), skipLines (c.skipped s)⟩
      { c with subscriptions := c.subscriptions.set k (c.advance s) } := by
  rw [← Channel.recvLines_of_live hs hl]
  exact .recv (Channel.recv_eq_some_iff.mpr ⟨s, hs, hl, rfl, rfl⟩)

end DevServer.Reload
