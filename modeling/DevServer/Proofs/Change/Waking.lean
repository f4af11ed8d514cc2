import DevServer.Proofs.Change.Quiet

/-!
# Waking in time

A debouncer tells how long to wait and whether it is ready from the same clock, but not by the same
rule. With something pending the two agree (`Timeline.wakes_in_time`): there is a last change then
(`Timeline.Sound.exists_lastChange`), and what is left of its window decides both.
-/

namespace DevServer.Timeline

open Debouncer (Use leastWait)

variable {window last : Nat} {t : Timeline}

/-- What waiting leads to. The wait is never too short, and it is too long only where it is the least
one. -/
structure WakesInTime (window : Nat) (t : Timeline) : Prop where
  ready : (t.use (.pass t.wait)).isReady = true
  /-- All that was pending can be taken then, and the debouncer is as new. -/
  takes_all : ∃ batch,
    (t.use (.pass t.wait)).debouncer.take? (t.now + t.wait) = some (batch, .new window) ∧
      batch.Perm t.debouncer.pending ∧ Ascending (batch.map Change.path)
  not_before : leastWait < t.wait → ∀ time < t.wait,
    (t.use (.pass time)).isReady = false ∧
      (t.use (.pass time)).debouncer.take? (t.now + time) = none

namespace Sound

/-- Where something is pending there was a change that counted. -/
theorem exists_lastChange (h : Sound window t) (hp : t.debouncer.pending ≠ []) :
    ∃ last ≤ t.now, t.debouncer.lastChange = some last := by
  cases hl : t.debouncer.lastChange with
  | none => exact absurd (h.pending_eq_nil hl) hp
  | some last =>
    obtain ⟨⟨x, hx, rfl⟩, -⟩ : LastHeeded t.since (some last) := hl ▸ h.lastHeeded
    exact ⟨x.time, h.past x (List.mem_append_right _ hx.mem), rfl⟩

theorem wait_eq (h : Sound window t) (hl : t.debouncer.lastChange = some last) :
    t.wait = max (window - (t.now - last)) leastWait := by
  rw [wait, Debouncer.wait, hl, h.window]

/-- What is left of the window has to pass. -/
theorem isReady_pass_iff (h : Sound window t) (hp : t.debouncer.pending ≠ [])
    (hl : t.debouncer.lastChange = some last) (hle : last ≤ t.now) (time : Nat) :
    (t.use (.pass time)).isReady = true ↔ window - (t.now - last) ≤ time := by
  have hready : (t.use (.pass time)).isReady = true ↔ window ≤ t.now + time - last := by
    simp [isReady, Timeline.use, Debouncer.isReady, hl, hp, h.window]
  rw [hready]
  omega

theorem take?_of_isReady (h : Sound window t) (hr : t.isReady = true) :
    t.debouncer.take? t.now = some (t.debouncer.pending.sorted, .new window) := by
  have hr : t.debouncer.isReady t.now = true := hr
  rw [Debouncer.take?, if_pos hr, ← h.window]
  rfl

end Sound

/-- **A debouncer wakes in time**: with something pending, it is ready just when it has waited for as
long as it says, unless that is the least wait. -/
theorem wakes_in_time (window : Nat) (us : List Use)
    (hp : (after window us).debouncer.pending ≠ []) : (after window us).WakesInTime window := by
  have h : Sound window (after window us) := sound window us
  obtain ⟨last, hle, hl⟩ := h.exists_lastChange hp
  have hiff := h.isReady_pass_iff hp hl hle
  have hwait := h.wait_eq hl
  have hready : ((after window us).use (.pass (after window us).wait)).isReady = true := by
    rw [hiff, hwait]
    exact Nat.le_max_left ..
  constructor
  case ready => exact hready
  case takes_all =>
    exact ⟨_, (h.pass _).take?_of_isReady hready, List.mergeSort_perm ..,
      h.gathered.distinct.sorted_ascending⟩
  case not_before =>
    intro hlong time htime
    have hnot : ((after window us).use (.pass time)).isReady = false := by
      rw [← Bool.not_eq_true, hiff]
      omega
    exact ⟨hnot, (Debouncer.take?_eq_none_iff ..).mpr hnot⟩

/-- The longest window in milliseconds that a 64-bit word holds, with a change that has cancelled
itself and one that has come after a batch could not be taken. -/
theorem wakes_in_time_longest :
    let t := after (18446744073709551615 * 1000) [.record ⟨.create, ["/src/scratch.ts"]⟩, .pass 200,
      .record ⟨.modify .data, ["/src/page.tsx"]⟩, .take, .record ⟨.remove, ["/src/scratch.ts"]⟩,
      .pass 100]
    t.debouncer.pending ≠ [] ∧ leastWait < t.wait ∧
      t.WakesInTime (18446744073709551615 * 1000) := by
  have hp : (after (18446744073709551615 * 1000) [.record ⟨.create, ["/src/scratch.ts"]⟩, .pass 200,
      .record ⟨.modify .data, ["/src/page.tsx"]⟩, .take, .record ⟨.remove, ["/src/scratch.ts"]⟩,
      .pass 100]).debouncer.pending = [⟨"/src/page.tsx", .modified⟩] := by cbv
  exact ⟨by rw [hp]; simp, by cbv, wakes_in_time _ _ (by rw [hp]; simp)⟩

end DevServer.Timeline
