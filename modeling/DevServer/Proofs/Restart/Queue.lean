import DevServer.Proofs.Restart.Exclusion

/-!
# The queued restart

`Shared.Queued` ties the tracker to the line: the one restart that is still to begin is the one that
has not claimed the slot or waits in the line for it, and the one that is running is the one that
began last.
-/

namespace DevServer.Restart

/-- The restart that waits in the line for its turn. -/
def Claim.entering? : Claim → Option Nat
  | enters (.restart n) => some n
  | enters (.shutdown _) | stops _ _ _ _ | starts _ _ _ => none

/-- The restart that has a call in progress. -/
def Claim.running? : Claim → Option Nat
  | stops (.restart n) _ _ _ | starts n _ _ => some n
  | stops (.shutdown _) _ _ _ | enters _ => none

theorem Claim.entering?_of_shutdown {x : Claim} {task : Nat} (h : x.owner = .shutdown task) :
    x.entering? = none := by
  cases x with
  | enters owner => cases h; rfl
  | stops | starts => rfl

theorem Claim.running?_of_shutdown {x : Claim} {task : Nat} (h : x.owner = .shutdown task) :
    x.running? = none := by
  cases x with
  | enters owner => rfl
  | stops owner => cases h; rfl
  | starts => cases h

theorem Claim.running?_of_not_isCall {x : Claim} (h : x.isCall = false) : x.running? = none := by
  cases x <;> first | rfl | cases h

namespace Shared

/-- The restarts that have not begun. -/
def waiting (c : Shared) : List Nat := c.unclaimed ++ c.line.filterMap Claim.entering?

/-- The restarts that have begun and not ended. -/
def running (c : Shared) : List Nat := c.line.filterMap Claim.running?

end Shared

/-! ## The tracker and the line -/

namespace Tracker

variable (t : Tracker) (n : Nat)

@[simp] theorem created_begin : (t.begin n).created = t.created := by
  unfold begin created; split <;> rfl

@[simp] theorem started_begin : (t.begin n).started = t.started + 1 := by
  unfold begin; split <;> rfl

@[simp] theorem created_setFate (f : Fate) : (t.setFate n f).created = t.created := by
  simp [setFate, created]

@[simp] theorem started_setFate (f : Fate) : (t.setFate n f).started = t.started := rfl

@[simp] theorem created_finish (o : Outcome) : (t.finish n o).created = t.created :=
  created_setFate t n _

@[simp] theorem started_finish (o : Outcome) : (t.finish n o).started = t.started := rfl

@[simp] theorem started_request : t.request.started = t.started := by
  unfold request; split <;> rfl

theorem created_request_of_none (h : t.queued = none) : t.request.created = t.created + 1 := by
  simp [request, h, created]

end Tracker

/-- At most one restart is still to begin, and the tracker knows it; at most one is running, and it is
the one that began last. -/
structure Shared.Queued (c : Shared) : Prop where
  waiting : c.waiting = c.tracker.queued.toList
  queued : c.tracker.queued = none ∧ c.tracker.created = c.tracker.started ∨
    c.tracker.queued = some (c.tracker.started + 1) ∧ c.tracker.created = c.tracker.started + 1
  last : c.tracker.running = if c.tracker.started = 0 then none else some c.tracker.started
  running : c.running = [] ∨ c.running = [c.tracker.started] ∧ 0 < c.tracker.started

/-- A claim that is given up is a shutdown's, so it is no restart that goes from the line. -/
theorem filterMap_giveUp {f : Claim → Option Nat} {task : Nat}
    (hf : ∀ x, x.owner = .shutdown task → f x = none) (l : List Claim) :
    (l.filter (·.owner != Owner.shutdown task)).filterMap f = l.filterMap f := by
  induction l with
  | nil => rfl
  | cons x l ih =>
    rw [List.filter_cons, List.filterMap_cons]
    split
    · rw [List.filterMap_cons, ih]
    · next hx => rw [hf x (by simpa using hx), ih]

namespace Shared.Queued

variable {c c' : Shared} {n : Nat} {rest : List Claim}

/-- The restart whose turn it is finds its own ticket queued. -/
theorem of_enters (h : c.Queued) (hl : c.line = .enters (.restart n) :: rest) :
    c.tracker.queued = some n ∧ n = c.tracker.started + 1 ∧ c.tracker.created = n ∧
      c.unclaimed = [] ∧ rest.filterMap Claim.entering? = [] := by
  have hw := h.waiting
  simp only [Shared.waiting, hl, List.filterMap_cons, Claim.entering?] at hw
  rcases h.queued with ⟨hq, -⟩ | ⟨hq, hc⟩
  · rw [hq] at hw; simp at hw
  · rw [hq] at hw ⊢
    rcases hu : c.unclaimed with _ | ⟨m, ms⟩ <;> simp_all

/-- A restart that has a call in progress is the one that began last, and the only one. -/
theorem of_running (h : c.Queued) {x : Claim} (hl : c.line = x :: rest) (hx : x.running? = some n) :
    n = c.tracker.started ∧ 0 < n ∧ c.running = [n] ∧ rest.filterMap Claim.running? = [] := by
  have hr : c.running = n :: rest.filterMap Claim.running? := by
    simp [Shared.running, hl, hx]
  rcases h.running with h0 | ⟨h1, hpos⟩
  · rw [h0] at hr; cases hr
  · rw [h1] at hr
    obtain ⟨h2, h3⟩ := List.cons.inj hr
    subst h2
    exact ⟨rfl, hpos, h1, h3.symm⟩

/-- A request is given the restart after those that have begun. -/
theorem ticket (h : c.Queued) : c.tracker.ticket = c.tracker.started + 1 := by
  rcases h.queued with ⟨hq, hc⟩ | ⟨hq, hc⟩
  · rw [Tracker.ticket, hq, ← hc]; rfl
  · rw [Tracker.ticket, hq]; rfl

theorem count (h : c.Queued) :
    c.tracker.created = c.tracker.started + c.tracker.queued.toList.length := by
  rcases h.queued with ⟨hq, hc⟩ | ⟨hq, hc⟩
  · rw [hq]; exact hc
  · rw [hq]; exact hc

theorem of_mem_unclaimed (h : c.Queued) (hn : n ∈ c.unclaimed) :
    c.unclaimed = [n] ∧ c.line.filterMap Claim.entering? = [] := by
  have hw := h.waiting
  simp only [Shared.waiting] at hw
  rcases hq : c.tracker.queued with _ | q <;> rw [hq] at hw
  · simp at hw; rw [hw.1] at hn; cases hn
  · rcases hu : c.unclaimed with _ | ⟨m, ms⟩ <;> simp_all

/-- Only the tracker's counts and its two places matter, and who waits and runs. -/
theorem congr (h : c.Queued) (hq : c'.tracker.queued = c.tracker.queued)
    (hc : c'.tracker.created = c.tracker.created) (hs : c'.tracker.started = c.tracker.started)
    (hl : c'.tracker.running = c.tracker.running) (hw : c'.waiting = c.waiting)
    (hr : c'.running = c.running ∨ c'.running = []) : c'.Queued where
  waiting := by rw [hw, hq, h.waiting]
  queued := by rw [hq, hc, hs]; exact h.queued
  last := by rw [hl, hs]; exact h.last
  running := by
    rcases hr with hr | hr
    · rw [hr, hs]; exact h.running
    · exact .inl hr

theorem request (h : c.Queued) :
    Queued { c with
      tracker := c.tracker.request
      unclaimed := if c.tracker.queued.isSome then c.unclaimed
        else c.unclaimed ++ [c.tracker.ticket] } := by
  have hw := h.waiting
  rcases h.queued with ⟨hq, hc⟩ | ⟨hq, hc⟩
  · rw [hq, Shared.waiting, Option.toList_none, List.append_eq_nil_iff] at hw
    simp only [Tracker.request, Tracker.ticket, hq]
    refine ⟨?_, ?_, h.last, h.running⟩
    · simp [Shared.waiting, hw.1, hw.2]
    · right; simpa [Tracker.created] using hc
  · simp only [Tracker.request, hq]
    exact h.congr rfl rfl rfl rfl rfl (.inl rfl)

/-- A restart begins; its claim `l` on the slot has a call in progress, or is gone. -/
theorem begin (h : c.Queued) (hl : c.line = .enters (.restart n) :: rest) {line : List Claim}
    (he : line.filterMap Claim.entering? = rest.filterMap Claim.entering?)
    (hr : line.filterMap Claim.running? = [] ∨ line.filterMap Claim.running? = [n]) :
    Queued { c with tracker := c.tracker.begin n, line } := by
  obtain ⟨hq, hn, hc, hu, hrest⟩ := h.of_enters hl
  have ht : c.tracker.begin n =
      { c.tracker with queued := none, running := some n, started := c.tracker.started + 1 } := by
    rw [Tracker.begin, if_pos hq]
  rw [ht]
  refine ⟨?_, .inl ⟨rfl, ?_⟩, ?_, ?_⟩
  · simp [Shared.waiting, hu, he, hrest]
  · show c.tracker.created = _
    rw [hc, hn]
  · simp [hn]
  · rcases hr with hr | hr
    · exact .inl hr
    · right; simpa [Shared.running, hn] using hr

end Shared.Queued

end DevServer.Restart
