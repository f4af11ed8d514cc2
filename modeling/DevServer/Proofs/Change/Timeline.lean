import DevServer.Proofs.Change.Batch

/-!
# A debouncer over time

A `Timeline` is a debouncer with its clock and with the events that it has recorded, those up to its
last batch and those since. `Timeline.after window us` is what the uses `us` lead to: events, spans of
time, and attempts to take a batch. An event of which each file is pending already, with a kind that
stands, is absorbed: recording it changes nothing. Every other event that concerns a file is heeded,
and the time of the last change is that of the last event heeded (`Timeline.Sound`).
-/

namespace DevServer

/-! ## Events that change nothing -/

namespace FileEvent

/-- Whether an event is a change of some file that is not temporary. -/
def concerns (e : FileEvent) : Bool := e.kind.change?.isSome && e.paths.any (!isTemporary ·)

/-- Each file that the event concerns is pending already: as removed if the event is a removal, and
as created or modified if it is none. -/
def IsAbsorbed (before : List FileEvent) (e : FileEvent) : Prop :=
  ∀ kind ∈ e.kind.change?, ∀ p ∈ e.paths, isTemporary p = false →
    ∃ first, mergedKind before p = some first ∧ (first = .removed ↔ kind = .removed)

theorem concerns_iff {e : FileEvent} :
    e.concerns = true ↔ ∃ kind ∈ e.kind.change?, ∃ p ∈ e.paths, isTemporary p = false := by
  unfold concerns
  cases e.kind.change? with
  | none => simp
  | some kind => simp

end FileEvent

theorem Merge.of_eq_keep_iff {pending : Option ChangeKind} {kind : ChangeKind} :
    Merge.of pending kind = .keep ↔
      ∃ first, pending = some first ∧ (first = .removed ↔ kind = .removed) := by
  rcases pending with _ | _ | _ | _ <;> cases kind <;> simp [Merge.of]

namespace Debouncer

variable {d : Debouncer} {now : Nat} {kind : ChangeKind} {p : Path}

/-- Whether a change of a path counts for nothing. -/
def Ignores (d : Debouncer) (kind : ChangeKind) (p : Path) : Prop :=
  isTemporary p = true ∨ Merge.of (d.pending.kind? p) kind = .keep

theorem recordChange_of_ignores (h : d.Ignores kind p) : recordChange now kind d p = d := by
  unfold recordChange
  split
  · rfl
  · next hp => rw [h.resolve_left hp]

theorem lastChange_recordChange (h : ¬d.Ignores kind p) :
    (recordChange now kind d p).lastChange = some now := by
  unfold recordChange
  split
  · next hp => exact absurd (.inl hp) h
  · split
    · next hk => exact absurd (.inr hk) h
    · rfl
    · rfl

theorem recordChanges_of_ignores {paths : List Path} (h : ∀ p ∈ paths, d.Ignores kind p) :
    paths.foldl (recordChange now kind) d = d := by
  induction paths with
  | nil => rfl
  | cons p ps ih =>
    obtain ⟨hp, hps⟩ := List.forall_mem_cons.mp h
    rw [List.foldl_cons, recordChange_of_ignores hp, ih hps]

/-- A change that counts is the last one, whatever comes with it. -/
theorem lastChange_recordChanges {paths : List Path} (h : ¬∀ p ∈ paths, d.Ignores kind p) :
    (paths.foldl (recordChange now kind) d).lastChange = some now := by
  have hstays (ps : List Path) (d : Debouncer) (hd : d.lastChange = some now) :
      (ps.foldl (recordChange now kind) d).lastChange = some now := by
    induction ps generalizing d with
    | nil => exact hd
    | cons p ps ih =>
      refine ih _ ?_
      by_cases hp : d.Ignores kind p
      · rw [recordChange_of_ignores hp, hd]
      · exact lastChange_recordChange hp
  induction paths generalizing d with
  | nil => exact absurd (fun _ hp => by cases hp) h
  | cons p ps ih =>
    rw [List.foldl_cons]
    by_cases hp : d.Ignores kind p
    · rw [recordChange_of_ignores hp]
      exact ih fun hps => h (List.forall_mem_cons.mpr ⟨hp, hps⟩)
    · exact hstays ps _ (lastChange_recordChange hp)

namespace Gathered

variable {window : Nat} {es : List FileEvent} {e : FileEvent}

theorem ignores_iff (h : Gathered window d es) : d.Ignores kind p ↔ (isTemporary p = false →
    ∃ first, mergedKind es p = some first ∧ (first = .removed ↔ kind = .removed)) := by
  unfold Ignores
  cases hp : isTemporary p with
  | true => simp
  | false => simp [h.kind?_eq hp, mergedKind, Merge.of_eq_keep_iff]

theorem record_of_isAbsorbed (h : Gathered window d es) (he : e.IsAbsorbed es) (now : Nat) :
    d.record now e = d := by
  unfold Debouncer.record
  cases hk : e.kind.change? with
  | none => rfl
  | some kind => exact recordChanges_of_ignores fun p hp => h.ignores_iff.mpr (he kind hk p hp)

theorem lastChange_record (h : Gathered window d es) (he : ¬e.IsAbsorbed es) (now : Nat) :
    (d.record now e).lastChange = some now := by
  unfold Debouncer.record
  cases hk : e.kind.change? with
  | none => exact absurd (fun kind hkind => by rw [hk] at hkind; cases hkind) he
  | some kind =>
    refine lastChange_recordChanges fun hall => he fun k hkind p hp => ?_
    rw [hk] at hkind
    cases hkind
    exact h.ignores_iff.mp (hall p hp)

end Gathered

@[simp] theorem window_record (d : Debouncer) (now : Nat) (e : FileEvent) :
    (d.record now e).window = d.window := by
  unfold record
  cases e.kind.change? with
  | none => rfl
  | some kind =>
    dsimp only
    induction e.paths generalizing d with
    | nil => rfl
    | cons p ps ih =>
      rw [List.foldl_cons, ih, recordChange]
      split
      · rfl
      · split <;> rfl

/-- What can be done with a debouncer. -/
inductive Use where
  | record (e : FileEvent)
  | pass (time : Nat)
  | take
  deriving DecidableEq, Repr

end Debouncer

/-! ## Timelines -/

/-- An event with the time at which it was recorded. -/
structure Recorded where
  time : Nat
  event : FileEvent
  deriving DecidableEq, Repr

/-- An event that has changed what is pending. -/
def Heeded (since : List Recorded) (x : Recorded) : Prop :=
  ∃ xs ys, since = xs ++ x :: ys ∧ ¬x.event.IsAbsorbed (xs.map Recorded.event)

/-- An event that concerns some file and has changed nothing. -/
def Absorbed (since : List Recorded) (x : Recorded) : Prop :=
  ∃ xs ys, since = xs ++ x :: ys ∧
    x.event.concerns = true ∧ x.event.IsAbsorbed (xs.map Recorded.event)

/-- The time of the last event that was heeded. -/
def LastHeeded (since : List Recorded) : Option Nat → Prop
  | none => ∀ x, ¬Heeded since x
  | some last => (∃ x, Heeded since x ∧ x.time = last) ∧ ∀ x, Heeded since x → x.time ≤ last

structure Timeline where
  debouncer : Debouncer
  now : Nat
  /-- What was recorded up to the last batch. -/
  past : List Recorded
  /-- What was recorded since. -/
  since : List Recorded
  deriving Repr

namespace Timeline

open Debouncer (Use)

def new (window : Nat) : Timeline := ⟨.new window, 0, [], []⟩

/-- An attempt that gives no batch leaves everything as it is. -/
def use (t : Timeline) : Use → Timeline
  | .record e =>
    { t with debouncer := t.debouncer.record t.now e, since := t.since ++ [⟨t.now, e⟩] }
  | .pass time => { t with now := t.now + time }
  | .take =>
    match t.debouncer.take? t.now with
    | none => t
    | some (_, debouncer) => { t with debouncer, past := t.past ++ t.since, since := [] }

def after (window : Nat) (us : List Use) : Timeline := us.foldl use (new window)

/-- All that was recorded. -/
def recorded (t : Timeline) : List Recorded := t.past ++ t.since

/-- The events since the last batch. -/
def events (t : Timeline) : List FileEvent := t.since.map Recorded.event

def isReady (t : Timeline) : Bool := t.debouncer.isReady t.now

def wait (t : Timeline) : Nat := t.debouncer.wait t.now

/-- What holds of a timeline at every time. -/
structure Sound (window : Nat) (t : Timeline) : Prop where
  gathered : t.debouncer.Gathered window t.events
  window : t.debouncer.window = window
  ordered : t.recorded.Pairwise fun x y => x.time ≤ y.time
  past : ∀ x ∈ t.recorded, x.time ≤ t.now
  lastHeeded : LastHeeded t.since t.debouncer.lastChange

end Timeline

section

variable {since : List Recorded} {x y : Recorded}

theorem heeded_concat :
    Heeded (since ++ [y]) x ↔
      Heeded since x ∨ x = y ∧ ¬y.event.IsAbsorbed (since.map Recorded.event) := by
  constructor
  · rintro ⟨xs, ys, hs, hx⟩
    rcases List.eq_nil_or_concat ys with rfl | ⟨zs, z, rfl⟩
    · obtain ⟨rfl, hxy⟩ := List.append_inj' hs rfl
      cases hxy
      exact .inr ⟨rfl, hx⟩
    · rw [List.concat_eq_append, ← List.cons_append, ← List.append_assoc] at hs
      exact .inl ⟨xs, zs, (List.append_inj' hs rfl).1, hx⟩
  · rintro (⟨xs, ys, rfl, hx⟩ | ⟨rfl, hx⟩)
    · exact ⟨xs, ys ++ [y], by simp, hx⟩
    · exact ⟨since, [], rfl, hx⟩

theorem Heeded.mem (h : Heeded since x) : x ∈ since := by
  obtain ⟨xs, ys, rfl, -⟩ := h
  simp

/-- An event that concerns some file is heeded or absorbed. -/
theorem heeded_or_absorbed (hx : x ∈ since) (hc : x.event.concerns = true) :
    Heeded since x ∨ Absorbed since x := by
  obtain ⟨xs, ys, rfl⟩ := List.append_of_mem hx
  by_cases ha : x.event.IsAbsorbed (xs.map Recorded.event)
  · exact .inr ⟨xs, ys, rfl, hc, ha⟩
  · exact .inl ⟨xs, ys, rfl, ha⟩

theorem Absorbed.mem (h : Absorbed since x) : x ∈ since ∧ x.event.concerns = true := by
  obtain ⟨xs, ys, rfl, hc, -⟩ := h
  exact ⟨by simp, hc⟩

theorem Heeded.concerns (h : Heeded since x) : x.event.concerns = true := by
  obtain ⟨xs, ys, -, hx⟩ := h
  cases hc : x.event.concerns with
  | true => rfl
  | false =>
    refine absurd (fun kind hk p hp ht => ?_) hx
    rw [FileEvent.concerns_iff.mpr ⟨kind, hk, p, hp, ht⟩] at hc
    cases hc

end

namespace Timeline.Sound

open Debouncer (Use)

variable {window : Nat} {t : Timeline}

theorem new (window : Nat) : Sound window (.new window) where
  gathered := .new
  window := rfl
  ordered := .nil
  past _ hx := by cases hx
  lastHeeded x hx := by cases hx.mem

theorem record (h : Sound window t) (e : FileEvent) : Sound window (t.use (.record e)) where
  gathered := by
    rw [events, use, List.map_append]
    exact h.gathered.record t.now e
  window := by rw [use, Debouncer.window_record, h.window]
  ordered := by
    rw [recorded, use, ← List.append_assoc]
    refine List.pairwise_append.mpr ⟨h.ordered, List.pairwise_singleton .., fun x hx y hy => ?_⟩
    rw [List.mem_singleton.mp hy]
    exact h.past x hx
  past x hx := by
    rw [recorded, use, ← List.append_assoc] at hx
    rcases List.mem_append.mp hx with hx | hx
    · exact h.past x hx
    · rw [List.mem_singleton.mp hx]
      exact Nat.le_refl _
  lastHeeded := by
    have hlast := h.lastHeeded
    rw [use]
    by_cases he : e.IsAbsorbed t.events
    · -- nothing changes, so the event heeded last is the same
      have heq (x : Recorded) : Heeded (t.since ++ [⟨t.now, e⟩]) x ↔ Heeded t.since x := by
        rw [heeded_concat]
        exact or_iff_left fun hx => hx.2 he
      rw [h.gathered.record_of_isAbsorbed he]
      cases hl : t.debouncer.lastChange <;> simpa [LastHeeded, hl, heq] using hlast
    · rw [h.gathered.lastChange_record he]
      refine ⟨⟨⟨t.now, e⟩, heeded_concat.mpr (.inr ⟨rfl, he⟩), rfl⟩, fun x hx => ?_⟩
      rcases heeded_concat.mp hx with hx | ⟨rfl, -⟩
      · exact h.past x (List.mem_append_right _ hx.mem)
      · exact Nat.le_refl _

theorem pass (h : Sound window t) (time : Nat) : Sound window (t.use (.pass time)) :=
  { h with past := fun x hx => Nat.le_add_right_of_le (h.past x hx) }

theorem take (h : Sound window t) : Sound window (t.use .take) := by
  rw [use]
  split
  · exact h
  · next batch d ht =>
    have hd : d = { t.debouncer with pending := [], lastChange := none } := by
      unfold Debouncer.take? at ht
      split at ht <;> cases ht
      rfl
    constructor
    case gathered => exact h.gathered.take ht
    case window => rw [hd]; exact h.window
    case ordered => rw [recorded, List.append_nil]; exact h.ordered
    case past => rw [recorded, List.append_nil]; exact h.past
    case lastHeeded => rw [hd]; exact fun x hx => by cases hx.mem

/-- One use keeps a timeline sound. -/
theorem use (h : Sound window t) (u : Use) : Sound window (t.use u) := by
  cases u with
  | record e => exact h.record e
  | pass time => exact h.pass time
  | take => exact h.take

end Timeline.Sound

/-- **Timelines are sound** whatever is done. -/
theorem Timeline.sound (window : Nat) (us : List Debouncer.Use) :
    (Timeline.after window us).Sound window := by
  unfold after
  suffices ∀ t : Timeline, t.Sound window → (us.foldl use t).Sound window from this _ (.new window)
  induction us with
  | nil => exact fun _ h => h
  | cons u us ih => exact fun t h => ih _ (h.use u)

end DevServer
