import DevServer.Proofs.Change.Timeline
import Mathlib

/-!
# Quiet trees and idle waits

A debouncer is ready when something is pending and every event heeded since the last batch is as old
as the window (`Timeline.readiness`). So the tree has been quiet for that long, but for events that were
absorbed: these do not begin the window anew (`Timeline.ready_unquiet`). When nothing is pending and
nothing was recorded since the last batch, the debouncer waits for a day; but when what was recorded has
cancelled itself, it waits as if it had changes, and once the window has passed it wakes every
millisecond (`Timeline.idle_wait_iff`, `Timeline.cancelled_not_idle`).
-/

namespace DevServer

/-! ## Nothing heeded -/

theorem mergedKind_eq_none {es : List FileEvent} {p : Path} (h : ∀ e ∈ es, e.concerns = false)
    (hp : isTemporary p = false) : mergedKind es p = none := by
  have hnone : Debouncer.kindsOf es p = [] := by
    refine List.flatMap_eq_nil_iff.mpr fun e he => ?_
    unfold FileEvent.kindsAt
    cases hk : e.kind.change? with
    | none => rfl
    | some kind =>
      refine List.map_eq_nil_iff.mpr (List.filter_eq_nil_iff.mpr fun q hq hqp => ?_)
      have hc : e.concerns = true :=
        FileEvent.concerns_iff.mpr ⟨kind, hk, q, hq, (isTemporary_congr hqp).trans hp⟩
      rw [h e he] at hc
      cases hc
  rw [mergedKind, hnone]
  rfl

/-- The first event that concerns a file is heeded. -/
theorem lastHeeded_none_iff {since : List Recorded} :
    LastHeeded since none ↔ ∀ x ∈ since, x.event.concerns = false := by
  constructor
  · intro h
    induction since using List.reverseRecOn with
    | nil => exact fun _ hx => by cases hx
    | append_singleton since y ih =>
      have hold : ∀ x ∈ since, x.event.concerns = false :=
        ih fun x hx => h x (heeded_concat.mpr (.inl hx))
      refine List.forall_mem_append.mpr ⟨hold, List.forall_mem_singleton.mpr ?_⟩
      by_contra hy
      have hy : y.event.concerns = true := by simpa using hy
      obtain ⟨kind, hk, p, hp, ht⟩ := FileEvent.concerns_iff.mp hy
      refine h y (heeded_concat.mpr (.inr ⟨rfl, fun habs => ?_⟩))
      obtain ⟨first, hfirst, -⟩ := habs kind hk p hp ht
      rw [mergedKind_eq_none (by simpa using hold) ht] at hfirst
      cases hfirst
  · intro h x hx
    have hc : x.event.concerns = true := hx.concerns
    rw [h x hx.mem] at hc
    cases hc

theorem LastHeeded.unique {since : List Recorded} {last other : Option Nat}
    (h : LastHeeded since last) (h' : LastHeeded since other) : last = other := by
  match last, other with
  | none, none => rfl
  | none, some _ => exact absurd h'.1.choose_spec.1 (h _)
  | some _, none => exact absurd h.1.choose_spec.1 (h' _)
  | some a, some b =>
    obtain ⟨⟨x, hx, rfl⟩, hle⟩ := h
    obtain ⟨⟨y, hy, rfl⟩, hle'⟩ := h'
    exact congrArg some (Nat.le_antisymm (hle' x hx) (hle y hy))

namespace Timeline

open Debouncer (Use idleWait leastWait)

variable {window : Nat} {t : Timeline}

/-! ## Readiness -/

/-- Nothing that concerns a file was recorded for as long as the window. -/
def IsQuiet (window : Nat) (t : Timeline) : Prop :=
  ∀ x ∈ t.recorded, x.event.concerns = true → x.time + window ≤ t.now

/-- When a debouncer is ready, and what that says of the tree. -/
structure Readiness (window : Nat) (t : Timeline) : Prop where
  ready_iff : t.isReady = true ↔
    t.debouncer.pending ≠ [] ∧ ∀ x, Heeded t.since x → x.time + window ≤ t.now
  takes : (t.debouncer.take? t.now).isSome = t.isReady
  /-- Of the events within the window, only absorbed ones are not noticed. -/
  quiet_iff : t.isReady = true →
    (t.IsQuiet window ↔ ∀ x, Absorbed t.since x → x.time + window ≤ t.now)

namespace Sound

theorem pending_eq_nil (h : Sound window t) (hl : t.debouncer.lastChange = none) :
    t.debouncer.pending = [] := by
  have hnone : LastHeeded t.since none := hl ▸ h.lastHeeded
  have hold := lastHeeded_none_iff.mp hnone
  refine List.eq_nil_iff_forall_not_mem.mpr fun c hc => ?_
  have ht : isTemporary c.path = false := (h.gathered.mem_pending hc).2
  have hk : t.debouncer.pending.kind? c.path = none :=
    (h.gathered.kind?_eq ht).trans (mergedKind_eq_none (by simpa [events] using hold) ht)
  unfold Pending.kind? at hk
  have hfind := List.find?_eq_none.mp (Option.map_eq_none_iff.mp hk) c hc
  exact hfind (Path.same_refl c.path)

theorem isReady_iff (h : Sound window t) : t.isReady = true ↔
    t.debouncer.pending ≠ [] ∧ ∀ x, Heeded t.since x → x.time + window ≤ t.now := by
  unfold isReady Debouncer.isReady
  cases hl : t.debouncer.lastChange with
  | none => simp [h.pending_eq_nil hl]
  | some last =>
    have hlast : LastHeeded t.since (some last) := hl ▸ h.lastHeeded
    obtain ⟨⟨y, hy, rfl⟩, hle⟩ := hlast
    have hnow : y.time ≤ t.now := h.past y (List.mem_append_right _ hy.mem)
    simp only [h.window, Bool.and_eq_true, decide_eq_true_eq, Bool.not_eq_true',
      List.isEmpty_eq_false_iff]
    rw [and_comm]
    refine and_congr_right fun _ => ⟨fun hw x hx => ?_, fun hall => ?_⟩
    · have hxy : x.time ≤ y.time := hle x hx
      omega
    · have hyw : y.time + window ≤ t.now := hall y hy
      omega

/-- What was recorded up to the last batch is older than what was heeded since. -/
theorem past_le (h : Sound window t) {x y : Recorded} (hx : x ∈ t.past) (hy : Heeded t.since y) :
    x.time ≤ y.time :=
  (List.pairwise_append.mp h.ordered).2.2 x hx y hy.mem

theorem quiet_iff (h : Sound window t) (hr : t.isReady = true) :
    t.IsQuiet window ↔ ∀ x, Absorbed t.since x → x.time + window ≤ t.now := by
  obtain ⟨hpending, hold⟩ := h.isReady_iff.mp hr
  constructor
  · intro hq x hx
    exact hq x (List.mem_append_right _ hx.mem.1) hx.mem.2
  · intro habs x hx hc
    rcases List.mem_append.mp hx with hx | hx
    · -- something is pending, so an event was heeded since
      obtain ⟨last, hl⟩ := Option.ne_none_iff_exists'.mp (mt h.pending_eq_nil hpending)
      obtain ⟨⟨y, hy, -⟩, -⟩ : LastHeeded t.since (some last) := hl ▸ h.lastHeeded
      exact (Nat.add_le_add_right (h.past_le hx hy) window).trans (hold y hy)
    · rcases heeded_or_absorbed hx hc with hx | hx
      · exact hold x hx
      · exact habs x hx

end Sound

/-- **A ready debouncer has heeded nothing within its window**: readiness notices all events but those
that are absorbed, and says that the tree is quiet just when these are old enough too. -/
theorem readiness (window : Nat) (us : List Use) : (after window us).Readiness window where
  ready_iff := (sound window us).isReady_iff
  takes := by
    unfold isReady Debouncer.take?
    split <;> simp_all
  quiet_iff := (sound window us).quiet_iff

/-- A file that is written again while the window runs does not begin it anew. -/
theorem ready_unquiet : ¬∀ (window : Nat) (us : List Use),
    (after window us).isReady = true → (after window us).IsQuiet window := by
  intro hall
  let e : FileEvent := ⟨.modify .data, ["/src/page.tsx"]⟩
  have hready : (after 300 [.record e, .pass 200, .record e, .pass 100]).isReady = true := by cbv
  have hmem : (⟨200, e⟩ : Recorded) ∈
      (after 300 [.record e, .pass 200, .record e, .pass 100]).recorded := by
    simp [after, use, recorded, new, e]
  have hold : 200 + 300 ≤ 300 := hall _ _ hready ⟨200, e⟩ hmem (by cbv)
  omega

/-! ## The wait -/

theorem Sound.lastChange_eq_iff (h : Sound window t) {last : Option Nat} :
    t.debouncer.lastChange = last ↔ LastHeeded t.since last :=
  ⟨fun hl => hl ▸ h.lastHeeded, h.lastHeeded.unique⟩

/-- **A debouncer waits for a day** if nothing that concerns a file was recorded since the last batch;
and if something was, only by the chance that a day is left of the window. Whether anything is still
pending does not matter: once the window has passed since the last event heeded, it wakes every
millisecond. -/
theorem idle_wait_iff (window : Nat) (us : List Use) :
    ((after window us).wait = idleWait ↔
      (∀ x ∈ (after window us).since, x.event.concerns = false) ∨
        ∃ last, LastHeeded (after window us).since (some last) ∧
          window - ((after window us).now - last) = idleWait) ∧
      ∀ last, LastHeeded (after window us).since (some last) →
        ∀ later, last + window ≤ later → (after window us).debouncer.wait later = leastWait := by
  have h : Sound window (after window us) := sound window us
  simp only [← lastHeeded_none_iff, ← h.lastChange_eq_iff]
  constructor
  · unfold wait Debouncer.wait
    have hday : leastWait < idleWait := by decide
    cases (after window us).debouncer.lastChange with
    | none => simp
    | some last =>
      simp only [h.window, reduceCtorEq, Option.some.injEq, exists_eq_left', false_or]
      omega
  · intro last hl later hle
    have hover : window - (later - last) = 0 := by omega
    rw [Debouncer.wait, hl, h.window]
    simp [hover]

/-- A file that is made and removed again leaves nothing pending, and the debouncer waits for the end
of the window. -/
theorem cancelled_not_idle : ¬∀ (window : Nat) (us : List Use),
    (after window us).debouncer.pending = [] → (after window us).wait = idleWait := by
  intro hall
  let us : List Use :=
    [.record ⟨.create, ["/src/scratch.ts"]⟩, .record ⟨.remove, ["/src/scratch.ts"]⟩]
  have hwait : (after 300000 us).wait = 300000 := by cbv
  rw [hall 300000 us (by cbv)] at hwait
  exact absurd hwait (by decide)

end Timeline

end DevServer
