import DevServer.Proofs.Restart.Run

/-!
# One worker at a time

Of the claims in the line only the one at its head can have called for a worker to be started or
stopped (`calls`). A worker that is being stopped may live until that call is over, so `living` counts
it beside the workers that are known to be alive. `Shared.Held` is the invariant of slot, line and
living workers; `one_worker` says what it means for every reachable state.
-/

namespace DevServer.Restart

/-- Whether the owner has called for a worker to be started or stopped. -/
def Claim.isCall : Claim → Bool
  | enters _ => false
  | stops _ _ _ _ | starts _ _ _ => true

/-- The worker that a call in progress is to stop. -/
def Claim.stopping? : Claim → Option Nat
  | stops _ worker _ _ => some worker
  | enters _ | starts _ _ _ => none

/-- The calls in progress. -/
def State.calls (s : State) : List Claim := s.line.filter Claim.isCall

/-- The workers that may be alive: those that are known to be, and those that are being stopped. -/
def State.living (s : State) : List Nat := s.alive ++ s.line.filterMap Claim.stopping?

theorem Claim.stopping?_of_not_isCall {x : Claim} (h : x.isCall = false) : x.stopping? = none := by
  cases x <;> simp_all [isCall, stopping?]

/-! ## Tails of lines -/

section
variable {x y : Claim} {l : List Claim}

theorem mem_tail_append (h : x ∈ (l ++ [y]).tail) : x ∈ l.tail ∨ x = y := by
  cases l <;> simp_all

theorem mem_tail_filter {p : Claim → Bool} (h : x ∈ (l.filter p).tail) : x ∈ l.tail := by
  cases l with
  | nil => simp at h
  | cons z l =>
    rw [List.filter_cons] at h
    split at h
    · exact (List.mem_filter.mp h).1
    · exact (List.mem_filter.mp (List.mem_of_mem_tail h)).1

end

/-! ## The invariant -/

/-- Only the head of the line calls, it calls with an empty slot, and no worker but the one in the
slot is alive. -/
structure Shared.Held (c : Shared) : Prop where
  tail : ∀ x ∈ c.line.tail, x.isCall = false
  vacant : ∀ x ∈ c.line, x.isCall = true → c.slot = none
  slot : ∀ w ∈ c.alive, c.slot = some w
  alive : c.alive.length ≤ 1

namespace Shared.Held

variable {script : Script} {c c' : Shared} {hs : List Happening}

theorem alive_eq_nil (h : c.Held) (hw : c.slot = none) : c.alive = [] := by
  refine List.eq_nil_iff_forall_not_mem.mpr fun w hm => ?_
  rw [h.slot w hm] at hw; cases hw

theorem rest (h : c.Held) {x : Claim} {rest : List Claim} (hl : c.line = x :: rest) :
    ∀ y ∈ rest, y.isCall = false := by
  simpa [hl] using h.tail

/-- The slot is empty while its owner has a call in progress. -/
theorem slot_eq_none (h : c.Held) {x : Claim} {rest : List Claim} (hl : c.line = x :: rest)
    (hx : x.isCall = true) : c.slot = none := h.vacant x (by rw [hl]; simp) hx

/-- The slot is empty and nobody is alive once the worker in it is being stopped. -/
theorem callStop (h : c.Held) {x : Claim} {rest : List Claim} (hl : c.line = x :: rest)
    (owner : Owner) {w : Nat} (hw : c.slot = some w) : (c.callStop script owner w).Held where
  tail := by simpa [Shared.callStop, hl] using h.rest hl
  vacant := fun _ _ _ => rfl
  slot := by
    intro v hv
    obtain ⟨hv, hne⟩ := List.mem_filter.mp hv
    have := h.slot v hv
    rw [hw] at this
    cases this
    simp at hne
  alive := Nat.le_trans (List.length_filter_le _ _) h.alive

theorem callStart (h : c.Held) {x : Claim} {rest : List Claim} (hl : c.line = x :: rest)
    (n : Nat) (hw : c.slot = none) : (c.callStart script n).Held where
  tail := by simpa [Shared.callStart, hl] using h.rest hl
  vacant := fun _ _ _ => hw
  slot := h.slot
  alive := h.alive

theorem leave (h : c.Held) : c.leave.Held where
  tail := fun x hx => h.tail x (List.mem_of_mem_tail hx)
  vacant := fun x hx => h.vacant x (List.mem_of_mem_tail hx)
  slot := h.slot
  alive := h.alive

/-- The tracker plays no part in who is alive. -/
theorem with_tracker (h : c.Held) (t : Tracker) : { c with tracker := t }.Held :=
  ⟨h.tail, h.vacant, h.slot, h.alive⟩

theorem begin (h : c.Held) (n : Nat) : (c.begin n).Held := h.with_tracker _

theorem append (h : c.Held) (unclaimed : List Nat) (shutDown : Bool) (owner : Owner) :
    { c with unclaimed, shutDown, line := c.line ++ [Claim.enters owner] }.Held where
  tail := by
    intro x hx
    rcases mem_tail_append hx with hx | rfl
    · exact h.tail x hx
    · rfl
  vacant := by
    intro x hx hc
    rcases List.mem_append.mp hx with hx | hx
    · exact h.vacant x hx hc
    · rw [List.mem_singleton.mp hx] at hc; cases hc
  slot := h.slot
  alive := h.alive

/-- The worker that a start in progress comes back with is the only one alive. -/
theorem install (h : c.Held) {n due : Nat} {rest : List Claim}
    (hl : c.line = .starts n due .ready :: rest) :
    (c.install.conclude n .succeeded).Held where
  tail := fun x hx => h.tail x (List.mem_of_mem_tail hx)
  vacant := by
    intro x hx hc
    have hx : x ∈ rest := by simpa [Shared.conclude, Shared.install, hl] using hx
    rw [h.rest hl x hx] at hc; cases hc
  slot := by
    intro w hw
    have hn := h.alive_eq_nil (h.slot_eq_none hl rfl)
    have hw : w = c.workers + 1 := by simpa [Shared.conclude, Shared.install, hn] using hw
    rw [hw]; rfl
  alive := by
    have hn := h.alive_eq_nil (h.slot_eq_none hl rfl)
    simp [Shared.conclude, Shared.install, hn]

theorem move (h : c.Held) (hm : Move script c hs c') : c'.Held := by
  cases hm with
  | task | request | mark | unmark | pass => exact ⟨h.tail, h.vacant, h.slot, h.alive⟩
  | die w =>
    exact ⟨h.tail, h.vacant, fun v hv => h.slot v (List.mem_filter.mp hv).1,
      Nat.le_trans (List.length_filter_le _ _) h.alive⟩
  | claim hn => exact h.append _ _ _
  | shutDown task => exact h.append _ _ _
  | giveUp task =>
    exact ⟨fun x hx => h.tail x (mem_tail_filter hx),
      fun x hx => h.vacant x (List.mem_filter.mp hx).1, h.slot, h.alive⟩
  | skip hl hd => exact h.leave.with_tracker _
  | stopPrevious hl hd hw => exact (h.begin _).callStop hl _ hw
  | startFirst hl hd hw => exact (h.begin _).callStart hl _ hw
  | startNext hl ht => exact h.callStart hl _ (h.slot_eq_none hl rfl)
  | stopLast hl hw => exact h.callStop hl _ hw
  | nothingToStop hl hw => exact h.leave
  | stopped hl ht => exact h.leave
  | install hl ht => exact h.install hl
  | fail hl ht hf hw => exact ⟨h.leave.tail, h.leave.vacant, h.slot, h.alive⟩
  | panic hl ht => exact h.leave.with_tracker _

theorem moves {h : History} (hc : c.Held) (hm : Moves script c h c') : c'.Held := by
  induction hm with
  | refl => exact hc
  | move _ hm ih => exact ih.move hm

theorem new : State.new.shared.Held := by
  constructor <;> simp [State.new, State.shared]

end Shared.Held

theorem Reachable.held {script : Script} {s : State} (h : Reachable script s) : s.shared.Held :=
  .moves .new h.moves

/-! ## Who is alive -/

section
variable {s : State} {x : Claim} {rest : List Claim}

theorem calls_eq (h : s.shared.Held) (hl : s.line = x :: rest) :
    s.calls = if x.isCall then [x] else [] := by
  have hr : rest.filter Claim.isCall = [] := by
    refine List.filter_eq_nil_iff.mpr fun y hy => ?_
    rw [h.rest hl y hy]; simp
  rw [State.calls, hl, List.filter_cons, hr]

theorem living_eq (h : s.shared.Held) (hl : s.line = x :: rest) :
    s.living = s.alive ++ x.stopping?.toList := by
  have hr : rest.filterMap Claim.stopping? = [] :=
    List.filterMap_eq_nil_iff.mpr fun y hy => Claim.stopping?_of_not_isCall (h.rest hl y hy)
  rw [State.living, hl, List.filterMap_cons, hr]
  cases x.stopping? <;> rfl

theorem living_of_line_eq_nil (hl : s.line = []) : s.living = s.alive := by
  simp [State.living, hl]

end

/-- **One worker at a time.** In every reachable state at most one worker may be alive and at most
one call for a worker is in progress; while that call is to start a worker, nobody is alive; and
whenever the slot is free, a worker that may be alive is the one in the slot. -/
theorem one_worker {script : Script} {s : State} (hs : Reachable script s) :
    s.living.length ≤ 1 ∧ s.calls.length ≤ 1 ∧
      (∀ n due o, Claim.starts n due o ∈ s.line →
        s.living = [] ∧ s.calls = [.starts n due o]) ∧
      (s.line = [] → ∀ w ∈ s.living, s.slot = some w) := by
  have h := hs.held
  rcases hl : s.line with _ | ⟨x, rest⟩
  · have hliv := living_of_line_eq_nil hl
    refine ⟨by rw [hliv]; exact h.alive, by simp [State.calls, hl], by simp, fun _ w hw => ?_⟩
    exact h.slot w (by rw [hliv] at hw; exact hw)
  · have hliv := living_eq h hl
    have hcalls := calls_eq h hl
    refine ⟨?_, by rw [hcalls]; split <;> simp, ?_, by simp⟩
    · -- a worker that is being stopped has left the slot, so nobody else is alive
      rcases hx : x.stopping? with _ | w
      · have ha : s.alive.length ≤ 1 := h.alive
        rw [hliv, hx]; simpa using ha
      · have hc : x.isCall = true := by cases x <;> simp_all [Claim.isCall, Claim.stopping?]
        have hn : s.alive = [] := h.alive_eq_nil (h.slot_eq_none hl hc)
        rw [hliv, hx, hn]; simp
    · intro n due o hm
      rcases List.mem_cons.mp hm with rfl | hm
      · have hn : s.alive = [] := h.alive_eq_nil (h.slot_eq_none hl rfl)
        exact ⟨by rw [hliv, hn]; rfl, by rw [hcalls]; rfl⟩
      · have := h.rest hl _ hm
        cases this

/-- A second restart starts its worker while a shutdown waits for the slot. -/
theorem one_worker_while_starting : ∃ s, Reachable ⟨[], []⟩ s ∧ s.line.length = 2 ∧
    s.living = [] ∧ s.calls = [.starts 2 1050 .ready] := by
  obtain ⟨s, hf, hlen, hm⟩ : ∃ s,
      State.new.follow? ⟨[], []⟩ anyAction
        [.request, .claim 1, .turn, .pass 500, .turn, .request, .claim 2, .turn, .spawn .shutdown,
          .poll 0, .pass 50, .turn] = some s ∧
      s.line.length = 2 ∧ s.line.head? = some (.starts 2 1050 .ready) :=
    ⟨_, rfl, rfl, rfl⟩
  have hs := (run_follow? hf).reachable .new
  obtain ⟨-, -, hst, -⟩ := one_worker hs
  exact ⟨s, hs, hlen, hst 2 1050 .ready (List.mem_of_head? hm)⟩

end DevServer.Restart
