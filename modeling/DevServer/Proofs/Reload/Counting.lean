import DevServer.Proofs.Reload.Delivery

/-!
# Counting subscriptions

The number of subscribers that a channel reports is a counter of its own; an event reaches those
subscriptions that are held. Both are the number of subscriptions that were made and have not ended
(`held`, `counts_agree`), in every run.
-/

namespace DevServer.Reload

/-! ### What is held -/

/-- The subscriptions that are held after a use, of those held before. -/
def Entry.held (ks : List Nat) (x : Entry) : List Nat :=
  match x.use, x.reply with
  | .subscribe _, .subscription k => ks ++ [k]
  | .unsubscribe k, _ => ks.filter (· != k)
  | _, _ => ks

/-- The subscriptions that are held after a run: those that were made and have not ended. -/
def held (h : List Entry) : List Nat := h.foldl Entry.held []

theorem held_concat (h : List Entry) (x : Entry) : held (h ++ [x]) = x.held (held h) := by
  simp [held]

namespace Channel

/-- Which subscriptions are held. -/
def flags (c : Channel) : List Bool := c.subscriptions.map (·.live)

variable {c c' : Channel} {k : Nat}

theorem isLive_iff : c.isLive k = true ↔ c.flags[k]? = some true := by
  simp [isLive, flags, Option.any_eq_true]

theorem receivers_eq (c : Channel) : c.receivers = c.flags.countP id := by
  simp [receivers, flags, List.countP_map]

theorem flags_subscribe (c : Channel) : c.subscribe.flags = c.flags ++ [true] := by
  simp [flags, subscribe, attach]

theorem flags_unsubscribe (hk : c.isLive k = true) :
    (c.unsubscribe k).flags = c.flags.set k false := by
  rw [unsubscribe_of_isLive hk, flags, flags]
  dsimp only [detach]
  refine List.ext_getElem? fun i => ?_
  rw [List.getElem?_map, List.getElem?_modify, List.getElem?_set, List.getElem?_map]
  obtain ⟨s, hs, -⟩ := exists_of_isLive hk
  rcases eq_or_ne k i with rfl | hne
  · simp [(List.getElem?_eq_some_iff.mp hs).1]
  · simp [hne]

/-- A read ends no subscription, whatever it skips. -/
theorem flags_recv {r : Received} (hr : c.recv k = some (r, c')) : c'.flags = c.flags := by
  obtain ⟨s, hs, -, -, rfl⟩ := recv_eq_some_iff.mp hr
  obtain ⟨hlt, rfl⟩ := List.getElem?_eq_some_iff.mp hs
  have hlive : (c.advance c.subscriptions[k]).live = c.subscriptions[k].live := by
    unfold advance
    split <;> rfl
  have hset : (c.subscriptions.map (·.live)).set k c.subscriptions[k].live =
      c.subscriptions.map (·.live) := by
    refine (congrArg _ ?_).trans (List.set_getElem_self (by simpa using hlt))
    rw [List.getElem_map]
  rw [flags, flags, List.map_set, hlive, hset]

theorem flags_send (c : Channel) (e : Event) : (c.send e).flags = c.flags := by
  rw [send_eq]
  split <;> rfl

theorem subscribers_recv {r : Received} (hr : c.recv k = some (r, c')) :
    c'.subscribers = c.subscribers := by
  obtain ⟨s, -, -, -, rfl⟩ := recv_eq_some_iff.mp hr
  rfl

theorem subscribers_send (c : Channel) (e : Event) : (c.send e).subscribers = c.subscribers := by
  rw [send_eq]
  split <;> rfl

end Channel

/-! ### Two counts -/

/-- Both counts are the number of subscriptions that are held. -/
structure Counted (h : List Entry) (c : Channel) : Prop where
  nodup : (held h).Nodup
  live : ∀ k, k ∈ held h ↔ c.isLive k = true
  subscribers : c.subscribers = (held h).length
  receivers : c.receivers = (held h).length

namespace Counted

variable {capacity : Nat} {h : List Entry} {c c' : Channel} {x : Entry} {k : Nat}

theorem new (hc : Channel.new? capacity = some c) : Counted [] c := by
  unfold Channel.new? at hc
  split at hc
  case isFalse => cases hc
  case isTrue =>
    cases hc
    exact ⟨.nil, fun k => by simp [held, Channel.isLive], rfl, rfl⟩

/-- A use that neither makes a subscription nor ends one. -/
theorem quiet (hc : Counted h c) (hx : x.held (held h) = held h) (hflags : c'.flags = c.flags)
    (hcount : c'.subscribers = c.subscribers) : Counted (h ++ [x]) c' where
  nodup := by rw [held_concat, hx]; exact hc.nodup
  live k := by rw [held_concat, hx, hc.live, Channel.isLive_iff, Channel.isLive_iff, hflags]
  subscribers := by rw [held_concat, hx, hcount, hc.subscribers]
  receivers := by
    rw [held_concat, hx, Channel.receivers_eq, hflags, ← Channel.receivers_eq, hc.receivers]

theorem subscribe (hc : Counted h c) (sender : Nat) (lines : List Log.Line) :
    Counted (h ++ [⟨.subscribe sender, .subscription c.subscriptions.length, lines⟩])
      c.subscribe := by
  have hlen : c.subscriptions.length = c.flags.length := by simp [Channel.flags]
  have hfresh : c.flags.length ∉ held h := by simp [hc.live, Channel.isLive_iff]
  rw [hlen]
  constructor
  case nodup =>
    rw [held_concat]
    exact List.nodup_append.mpr ⟨hc.nodup, List.nodup_singleton _, fun a ha b hb hab =>
      hfresh (List.mem_singleton.mp hb ▸ hab ▸ ha)⟩
  case live =>
    intro k
    rw [held_concat, Entry.held, List.mem_append, hc.live, List.mem_singleton, Channel.isLive_iff,
      Channel.isLive_iff, Channel.flags_subscribe]
    rcases Nat.lt_trichotomy k c.flags.length with hlt | rfl | hgt
    · rw [List.getElem?_append_left hlt]
      exact or_iff_left (Nat.ne_of_lt hlt)
    · simp
    · have hnone : (c.flags ++ [true])[k]? = none := List.getElem?_eq_none (by simp; omega)
      simp [hnone, Nat.ne_of_gt hgt, Nat.le_of_lt hgt]
  case subscribers => rw [held_concat, Entry.held, List.length_append, ← hc.subscribers]; rfl
  case receivers =>
    rw [held_concat, Entry.held, List.length_append, ← hc.receivers, Channel.receivers_eq,
      Channel.flags_subscribe, List.countP_append, ← Channel.receivers_eq]
    rfl

/-- The end of a subscription that is held lowers both counts by one. -/
theorem unsubscribe (hc : Counted h c) (hk : c.isLive k = true) (lines : List Log.Line) :
    Counted (h ++ [⟨.unsubscribe k, .done, lines⟩]) (c.unsubscribe k) ∧
      c.subscribers = (c.unsubscribe k).subscribers + 1 := by
  have hmem : k ∈ held h := (hc.live k).mpr hk
  have hlen : ((held h).filter (· != k)).length + 1 = (held h).length := by
    rw [← hc.nodup.erase_eq_filter, List.length_erase_of_mem hmem]
    exact Nat.sub_add_cancel (List.length_pos_of_mem hmem)
  have hsub : (c.unsubscribe k).subscribers = c.subscribers - 1 := by
    rw [Channel.unsubscribe_of_isLive hk]
  have hcount := hc.subscribers
  refine ⟨?_, by omega⟩
  constructor
  case nodup =>
    rw [held_concat]
    exact hc.nodup.filter _
  case live =>
    intro i
    rw [held_concat, Entry.held, List.mem_filter, hc.live, Channel.isLive_iff, Channel.isLive_iff,
      Channel.flags_unsubscribe hk, List.getElem?_set]
    rcases eq_or_ne k i with rfl | hne
    · simp
    · simp [hne, hne.symm]
  case subscribers =>
    rw [held_concat, Entry.held]
    dsimp only
    omega
  case receivers =>
    obtain ⟨hlt, hget⟩ := List.getElem?_eq_some_iff.mp (Channel.isLive_iff.mp hk)
    have hrec := hc.receivers
    rw [held_concat, Entry.held, Channel.receivers_eq, Channel.flags_unsubscribe hk,
      List.countP_set hlt, ← Channel.receivers_eq, hget]
    simp only [id, if_true, Bool.false_eq_true, if_false]
    omega

/-- What a use does to the number of subscribers. -/
theorem uses (hc : Counted h c) (hx : Uses c x c') : Counted (h ++ [x]) c' ∧
    match x.use with
    | .subscribe _ => c'.subscribers = c.subscribers + 1
    | .unsubscribe _ => c.subscribers = c'.subscribers + 1
    | _ => c'.subscribers = c.subscribers := by
  cases hx with
  | subscribe => exact ⟨hc.subscribe .., rfl⟩
  | unsubscribe hk => exact hc.unsubscribe hk _
  | broadcast e | publish e =>
    have hcount := Channel.subscribers_send c e
    exact ⟨hc.quiet rfl (Channel.flags_send c e) hcount, hcount⟩
  | recv hr =>
    have hcount := Channel.subscribers_recv hr
    exact ⟨hc.quiet rfl (Channel.flags_recv hr) hcount, hcount⟩
  | clone => exact ⟨hc.quiet rfl rfl rfl, rfl⟩
  | drop => exact ⟨hc.quiet rfl rfl rfl, rfl⟩

end Counted

theorem Used.counted {capacity : Nat} {h : List Entry} {c : Channel} (hu : Used capacity h c) :
    Counted h c := by
  induction hu with
  | new hc => exact .new hc
  | use _ hx ih => exact (ih.uses hx).1

/-- What a channel says of its subscribers. -/
structure CountsAgree (h : List Entry) (c : Channel) : Prop where
  counted : Counted h c
  /-- Each sender that is held can send, and is told the number that is reported. -/
  sends : ∀ s e, c.isSender s = true →
    ∃ lines c', Uses c ⟨.broadcast s e, .reached c.subscribers, lines⟩ c'
  reached : ∀ s e n lines c', Uses c ⟨.broadcast s e, .reached n, lines⟩ c' →
    n = c.subscribers
  zero_iff : c.subscribers = 0 ↔ ∀ k, c.isLive k = false
  /-- Only making and ending subscriptions changes the number, and that by one. -/
  changes : ∀ x c', Uses c x c' →
    match x.use with
    | .subscribe _ => c'.subscribers = c.subscribers + 1
    | .unsubscribe _ => c.subscribers = c'.subscribers + 1
    | _ => c'.subscribers = c.subscribers

/-- **The number of subscribers that is reported is the number that an event reaches**, and that of
the subscriptions held, whatever has been done with the channel. -/
theorem counts_agree {capacity : Nat} {h : List Entry} {c : Channel} (hu : Used capacity h c) :
    CountsAgree h c := by
  have hc : Counted h c := hu.counted
  have heq (e : Event) : (c.broadcast e).1 = c.subscribers := by
    rw [Channel.broadcast_eq, hc.receivers, hc.subscribers]
  constructor
  case counted => exact hc
  case sends => exact fun s e hs => ⟨_, _, heq e ▸ Uses.broadcast e hs⟩
  case reached =>
    intro s e n lines c' hx
    cases hx
    exact heq e
  case zero_iff =>
    rw [hc.subscribers, List.length_eq_zero_iff, List.eq_nil_iff_forall_not_mem]
    simp [hc.live]
  case changes => exact fun x c' hx => (hc.uses hx).2

/-- Two are left of three when a subscriber has been behind and the first sender is gone, and the
second one reaches both. -/
theorem counts_agree_behind : ∃ (h : List Entry) (c c' : Channel) (lines : List Log.Line),
    Used 1 h c ∧ held h = [1, 2] ∧ c.subscribers = 2 ∧ c.isSender 0 = false ∧
      Uses c ⟨.broadcast 1 .serverUpdate, .reached 2, lines⟩ c' := by
  have h₀ : Used 1 [] _ := .new (if_pos (by decide))
  have h₁ := (h₀.use (.subscribe (s := 0) rfl)).use (.clone (s := 0) rfl)
  have h₂ := (h₁.use (.subscribe (s := 1) rfl)).use (.subscribe (s := 1) rfl)
  have h₃ := (h₂.use (.publish (s := 0) .serverUpdate rfl)).use
    (.publish (s := 1) (.clientBuilt 1) rfl)
  have h₄ := (h₃.use (.read (k := 1) rfl rfl)).use (.unsubscribe (k := 0) rfl)
  have h₅ := h₄.use (.drop (s := 0) rfl)
  have hagree := counts_agree h₅
  obtain ⟨lines, c', hx⟩ := hagree.sends 1 .serverUpdate rfl
  exact ⟨_, _, c', lines, h₅, rfl, hagree.counted.subscribers, rfl, hx⟩

end DevServer.Reload
