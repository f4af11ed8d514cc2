import DevServer.Proofs.Restart.Fairness

/-!
# Shutting down

A restart that gets the slot when a shutdown has been called is skipped, and calls for nothing
(`Halting`). When a call to shut down comes to its end the slot is empty and no call is in progress,
and since every restart is skipped from then on it stays so (`Shared.Over`). The worker in the slot
has not been stopped, and one that is stopped leaves the slot, so none is stopped twice (`Stops`).
-/

namespace DevServer.Restart

namespace Happening

/-- The restart that works in spite of shutdowns: it calls for a worker, or ends otherwise than by
being skipped. -/
def working? : Happening → Option Nat
  | stopCalled (.restart n) _ | startCalled n | ended n .succeeded | ended n (.failed _)
  | abandoned n => some n
  | _ => none

/-- The worker that is passed to be stopped. -/
def stopped? : Happening → Option Nat
  | stopCalled _ w => some w
  | _ => none

theorem working?_of_ofTask {x : Happening} (h : x.ofTask = true) : x.working? = none := by
  cases x <;> first | rfl | cases h

end Happening

namespace History

/-- The workers that have been passed to be stopped, in order. -/
def stopped (h : History) : List Nat := h.filterMap (·.2.stopped?)

/-- A restart begins to work only if no shutdown has been called. -/
def Heedful (past : History) (x : Happening) : Prop :=
  ∀ n, x = .began n false → ∀ u, (u, .shutdownCalled) ∉ past

end History

/-! ## Restarts that have not begun -/

namespace Shared

variable {c c' : Shared} {n : Nat} {x : Claim} {rest : List Claim}

theorem running_of_tail (h : n ∈ c.line.tail.filterMap Claim.running?) : n ∈ c.running := by
  obtain ⟨x, hx, hn⟩ := List.mem_filterMap.mp h
  exact List.mem_filterMap.mpr ⟨x, List.mem_of_mem_tail hx, hn⟩

theorem running_of_head (hl : c.line = x :: rest) (hx : x.running? = some n) : n ∈ c.running :=
  List.mem_filterMap.mpr ⟨x, by rw [hl]; exact List.mem_cons_self .., hx⟩

/-- Nobody else runs when the head of the line begins to. -/
theorem running_cons (hl : c'.line = x :: c.line.tail) (hx : x.running? = some n) :
    c'.running ⊆ n :: c.running := by
  rw [running, hl, List.filterMap_cons, hx]
  exact List.cons_subset_cons n fun _ => running_of_tail

end Shared

/-- Nothing begins to work and no shutdown is called: `c.running` are the only ones that work. -/
structure Carries (c : Shared) (hs : List Happening) (c' : Shared) : Prop where
  shutDown : c'.shutDown = c.shutDown
  notCalled : .shutdownCalled ∉ hs
  notBegun : ∀ n, .began n false ∉ hs
  running : c'.running ⊆ c.running
  working : ∀ x ∈ hs, ∀ n, x.working? = some n → n ∈ c.running

/-- A restart begins to work, a shutdown is called, or whoever works goes on. -/
theorem Move.works {script : Script} {c c' : Shared} {hs : List Happening}
    (hm : Move script c hs c') :
    (c.shutDown = false ∧ c'.shutDown = false ∧ ∃ n y, hs = [.began n false, y] ∧
        y ≠ .shutdownCalled ∧ y.begun? = none ∧ c'.running ⊆ n :: c.running ∧
        y.working? = some n) ∨
      (hs = [.shutdownCalled] ∧ c'.shutDown = true ∧ c'.running = c.running) ∨
      Carries c hs c' := by
  cases hm with
  | task hx =>
    refine .inr (.inr ⟨rfl, ?_, fun n => ?_, fun _ => id, fun x hm n hn => ?_⟩)
    · rw [List.mem_singleton]; rintro rfl; cases hx
    · rw [List.mem_singleton]; rintro rfl; cases hx
    · rw [List.mem_singleton.mp hm, Happening.working?_of_ofTask hx] at hn; cases hn
  | request | mark | unmark | die =>
    exact .inr (.inr ⟨rfl, by simp, by simp, fun _ => id, by simp [Happening.working?]⟩)
  | pass => exact .inr (.inr ⟨rfl, by simp, by simp, fun _ => id, by simp⟩)
  | claim hn =>
    refine .inr (.inr ⟨rfl, by simp, by simp, fun n hn => ?_, by simp⟩)
    simpa [Shared.running, Claim.running?] using hn
  | shutDown task => exact .inr (.inl ⟨rfl, rfl, by simp [Shared.running, Claim.running?]⟩)
  | giveUp task =>
    refine .inr (.inr ⟨rfl, by simp, by simp, fun n hn => ?_, by simp⟩)
    rw [Shared.running, filterMap_giveUp fun x => Claim.running?_of_shutdown] at hn
    exact hn
  | skip | stopLast | stopped =>
    exact .inr (.inr ⟨rfl, by simp, by simp, fun _ => Shared.running_of_tail,
      by simp [Happening.working?]⟩)
  | nothingToStop =>
    exact .inr (.inr ⟨rfl, by simp, by simp, fun _ => Shared.running_of_tail, by simp⟩)
  | stopPrevious hl hd | startFirst hl hd =>
    exact .inl ⟨hd, hd, _, _, rfl, by simp, rfl, Shared.running_cons rfl rfl, rfl⟩
  | @startNext n w due f rest hl ht =>
    have hn : n ∈ c.running := Shared.running_of_head hl rfl
    have hrun : (c.callStart script n).running ⊆ n :: c.running := Shared.running_cons rfl rfl
    exact .inr (.inr ⟨rfl, by simp, by simp,
      List.Subset.trans hrun (List.cons_subset.mpr ⟨hn, List.Subset.refl _⟩),
      by simpa [Happening.working?] using hn⟩)
  | @install n due rest hl ht =>
    have hn : n ∈ c.running := Shared.running_of_head hl rfl
    refine .inr (.inr ⟨rfl, ?_, fun m => ?_, fun _ => Shared.running_of_tail, ?_⟩)
    · simpa using fun h => by cases Shared.eq_of_mem_news h
    · simpa using fun h => by cases Shared.eq_of_mem_news h
    · intro x hx m hm
      rcases List.mem_append.mp hx with hx | hx
      · rcases List.mem_cons.mp hx with rfl | hx
        · cases hm
        · rw [Shared.eq_of_mem_news hx] at hm; cases hm
      · rw [List.mem_singleton.mp hx] at hm; cases hm; exact hn
  | fail hl | panic hl =>
    have hn := Shared.running_of_head hl rfl
    exact .inr (.inr ⟨rfl, by simp, by simp, fun _ => Shared.running_of_tail,
      by simpa [Happening.working?] using hn⟩)

open History in
/-- The coordinator knows whether a shutdown has been called, and whoever has worked has begun to
when none had been. -/
structure Halting (h : History) (c : Shared) : Prop where
  flag : c.shutDown = true ↔ ∃ u, (u, .shutdownCalled) ∈ h
  each : h.Each Heedful
  running : ∀ n ∈ c.running, ∃ u, (u, .began n false) ∈ h
  working : ∀ u x n, (u, x) ∈ h → x.working? = some n → ∃ v, (v, .began n false) ∈ h

namespace Halting

open History

variable {script : Script} {c c' : Shared} {h : History} {hs : List Happening} {t : Nat}

/-- Who has worked, when more has happened. -/
theorem working_append (hb : Halting h c) (hs' : ∀ x ∈ hs, ∀ n, x.working? = some n →
      ∃ v, (v, .began n false) ∈ h ++ hs.map (t, ·)) (u : Nat) (x : Happening) (n : Nat)
    (hx : (u, x) ∈ h ++ hs.map (t, ·)) (hn : x.working? = some n) :
    ∃ v, (v, .began n false) ∈ h ++ hs.map (t, ·) := by
  rcases List.mem_append.mp hx with hx | hx
  · exact (hb.working u x n hx hn).imp fun _ => List.mem_append_left _
  · exact hs' x (mem_stamp.mp hx).2 n hn

/-- A restart begins to work when no shutdown has been called. -/
theorem began (hb : Halting h c) {n : Nat} {y : Happening} (hd : c.shutDown = false)
    (hd' : c'.shutDown = false) (hy : y ≠ .shutdownCalled) (hyb : y.begun? = none)
    (hrun : c'.running ⊆ n :: c.running) (hyn : y.working? = some n) :
    Halting (h ++ [.began n false, y].map (t, ·)) c' := by
  have hno : ∀ u, (u, .shutdownCalled) ∉ h := fun u hu => by
    rw [hb.flag.mpr ⟨u, hu⟩] at hd; cases hd
  have hbegan : ∃ u, (u, .began n false) ∈ h ++ [.began n false, y].map (t, ·) :=
    ⟨t, List.mem_append_right _ (List.mem_cons_self ..)⟩
  constructor
  case flag =>
    rw [hd']
    simpa [hy.symm] using hno
  case each =>
    refine each_append.mpr ⟨hb.each, fun _ _ => hno, ?_, trivial⟩
    rintro m rfl; cases hyb
  case running =>
    intro m hm
    rcases List.mem_cons.mp (hrun hm) with rfl | hm
    · exact hbegan
    · exact (hb.running m hm).imp fun _ => List.mem_append_left _
  case working =>
    refine hb.working_append fun x hx m hm => ?_
    rcases List.mem_cons.mp hx with rfl | hx
    · cases hm
    · rw [List.mem_singleton.mp hx, hyn] at hm; cases hm
      exact hbegan

theorem called (hb : Halting h c) (hd : c'.shutDown = true) (hrun : c'.running = c.running) :
    Halting (h ++ [.shutdownCalled].map (t, ·)) c' where
  flag := iff_of_true hd ⟨t, by simp⟩
  each := each_concat.mpr ⟨hb.each, nofun⟩
  running := fun n hn => (hb.running n (hrun ▸ hn)).imp fun _ => List.mem_append_left _
  working := hb.working_append fun x hx m hm => by rw [List.mem_singleton.mp hx] at hm; cases hm

theorem carried (hb : Halting h c) (hc : Carries c hs c') : Halting (h ++ hs.map (t, ·)) c' where
  flag := by
    rw [hc.shutDown, hb.flag]
    simp [hc.notCalled]
  each := each_append.mpr ⟨hb.each,
    eachAfter_stamp fun x hx past n hn => absurd (hn ▸ hx) (hc.notBegun n)⟩
  running := fun n hn => (hb.running n (hc.running hn)).imp fun _ => List.mem_append_left _
  working := hb.working_append fun x hx n hn =>
    (hb.running n (hc.working x hx n hn)).imp fun _ => List.mem_append_left _

theorem move (hb : Halting h c) (hm : Move script c hs c') :
    Halting (h ++ hs.map (c.now, ·)) c' := by
  rcases hm.works with ⟨hd, hd', n, y, rfl, hy, hyb, hrun, hyn⟩ | ⟨rfl, hd, hrun⟩ | hc
  · exact hb.began hd hd' hy hyb hrun hyn
  · exact hb.called hd hrun
  · exact hb.carried hc

theorem new : Halting [] State.new.shared :=
  ⟨⟨nofun, fun ⟨_, h⟩ => nomatch h⟩, each_nil, nofun, nofun⟩

end Halting

section
variable {script : Script} {s : State} {past later : History} {t n : Nat}

theorem Reachable.halting (h : Reachable script s) : Halting s.history s.shared :=
  h.invariant .new .move

/-- A restart that has not begun when a shutdown is called never begins to work. -/
theorem Reachable.not_begins (hs : Reachable script s)
    (hh : s.history = past ++ (t, .shutdownCalled) :: later) (hn : n ∉ past.begun) (u : Nat) :
    (u, .began n false) ∉ s.history := by
  intro hm
  rw [hh] at hm
  rcases List.mem_append.mp hm with hm | hm
  · exact hn (List.mem_filterMap.mpr ⟨_, hm, rfl⟩)
  · rcases List.mem_cons.mp hm with hm | hm
    · cases hm
    · obtain ⟨a, b, rfl⟩ := List.append_of_mem hm
      rw [← List.cons_append, ← List.append_assoc] at hh
      exact hs.halting.each _ u _ b hh n rfl t (by simp)

end

/-! ## When a call to shut down has come to its end -/

namespace Shared

variable {script : Script} {c c' : Shared} {hs : List Happening} {h : History}

/-- A claim of a shutdown is in the line only if one has been called. -/
def Claimed (c : Shared) : Prop :=
  ∀ x ∈ c.line, ∀ task, x.owner = .shutdown task → c.shutDown = true

/-- The head of the line goes on, or leaves. -/
theorem Claimed.head (h : c.Claimed) {x : Claim} {rest : List Claim} (hl : c.line = x :: rest)
    (hd : c'.shutDown = c.shutDown)
    (hl' : c'.line = c.line.tail ∨ ∃ y : Claim, c'.line = y :: c.line.tail ∧ y.owner = x.owner) :
    c'.Claimed := by
  have htail : ∀ z ∈ c.line.tail, ∀ task, z.owner = .shutdown task → c'.shutDown = true :=
    fun z hz task hzo => hd ▸ h z (List.mem_of_mem_tail hz) task hzo
  rcases hl' with hl' | ⟨y, hl', hy⟩
  · intro z hz; rw [hl'] at hz; exact htail z hz
  · intro z hz task hzo
    rw [hl'] at hz
    rcases List.mem_cons.mp hz with rfl | hz
    · exact hd ▸ h x (by rw [hl]; exact List.mem_cons_self ..) task (hy ▸ hzo)
    · exact htail z hz task hzo

theorem Claimed.move (h : c.Claimed) (hm : Move script c hs c') : c'.Claimed := by
  cases hm with
  | task | request | mark | unmark | pass | die => exact h
  | claim hn =>
    intro x hx task hxo
    rcases List.mem_append.mp hx with hx | hx
    · exact h x hx task hxo
    · rw [List.mem_singleton.mp hx] at hxo; cases hxo
  | shutDown task => exact fun _ _ _ _ => rfl
  | giveUp task => exact fun x hx => h x (List.mem_filter.mp hx).1
  | skip hl | nothingToStop hl | stopped hl | install hl | fail hl | panic hl =>
    exact h.head hl rfl (.inl rfl)
  | stopPrevious hl | startFirst hl | startNext hl | stopLast hl =>
    exact h.head hl rfl (.inr ⟨_, rfl, rfl⟩)

/-- The coordinator is shut down: the slot is empty and no call is in progress. -/
structure Over (c : Shared) : Prop where
  shutDown : c.shutDown = true
  slot : c.slot = none
  line : ∀ x ∈ c.line, x.isCall = false

theorem Over.head (h : c.Over) {x : Claim} {rest : List Claim} (hl : c.line = x :: rest) :
    x.isCall = false := h.line x (by rw [hl]; exact List.mem_cons_self ..)

theorem Over.tail (h : c.Over) : ∀ x ∈ c.line.tail, x.isCall = false :=
  fun x hx => h.line x (List.mem_of_mem_tail hx)

/-- **Nothing happens at the slot once the coordinator is shut down.** -/
theorem Over.move (h : c.Over) (hm : Move script c hs c') : c'.Over := by
  have happend (owner : Owner) : ∀ x ∈ c.line ++ [.enters owner], x.isCall = false := fun x hx => by
    rcases List.mem_append.mp hx with hx | hx
    · exact h.line x hx
    · rw [List.mem_singleton.mp hx]; rfl
  cases hm with
  | task | request | mark | unmark | pass | die => exact ⟨h.shutDown, h.slot, h.line⟩
  | claim hn => exact ⟨h.shutDown, h.slot, happend _⟩
  | shutDown task => exact ⟨rfl, h.slot, happend _⟩
  | giveUp task => exact ⟨h.shutDown, h.slot, fun x hx => h.line x (List.mem_filter.mp hx).1⟩
  | skip | nothingToStop => exact ⟨h.shutDown, h.slot, h.tail⟩
  | stopPrevious hl hd | startFirst hl hd => rw [h.shutDown] at hd; cases hd
  | stopLast hl hw => rw [h.slot] at hw; cases hw
  | startNext hl | stopped hl | install hl | fail hl | panic hl => cases h.head hl

end Shared

section
variable {script : Script} {s s' : State}

theorem Reachable.claimed (hs : Reachable script s) : s.shared.Claimed :=
  hs.invariant (P := fun _ c => c.Claimed) (fun _ hx => by cases hx) .move

/-- A call to shut down comes to its end when the slot is empty. -/
theorem Turned.over {hs : List Happening} (hr : Reachable script s) (h : Turned script s hs s')
    {j : Nat} (hj : .taskEnded j .shutDown ∈ hs) : s'.shared.Over := by
  have hover {x : Claim} {rest : List Claim} {task : Nat} (hl : s.line = x :: rest)
      (hx : x.owner = .shutdown task) (hw : s.slot = none) : s.shared.leave.Over :=
    have hm : x ∈ s.line := by rw [hl]; exact List.mem_cons_self ..
    ⟨hr.claimed x hm task hx, hw, hr.held.tail⟩
  cases h with
  | nothingToStop hl hw => exact hover hl rfl hw
  | stopped hl => exact hover hl rfl (hr.held.slot_eq_none hl rfl)
  | install hl =>
    rcases List.mem_append.mp hj with hj | hj
    · rcases List.mem_cons.mp hj with hj | hj
      · cases hj
      · cases Shared.eq_of_mem_news hj
    · simp at hj
  | _ => simp at hj

/-- **The coordinator is shut down once a call to shut it down has come to its end.** -/
theorem Reachable.over (hs : Reachable script s) {u j : Nat}
    (h : (u, .taskEnded j .shutDown) ∈ s.history) : s.shared.Over := by
  induction hs with
  | new => cases h
  | @step s s' a hs ha ih =>
    obtain ⟨k, hm, hk⟩ := evolves_step ha
    rw [hk] at h
    rcases List.mem_append.mp h with h | h
    · exact hm.preserves (P := fun _ c => c.Over) (h := s.history) .move (ih h)
    · obtain ⟨-, hs', ht, -, hj⟩ := turned_of_atSlot ha hk h rfl
      exact ht.over hs hj

/-- Nobody is alive and nobody calls in a coordinator that is shut down. -/
theorem living_of_over (hs : Reachable script s) (h : s.shared.Over) :
    s.living = [] ∧ s.calls = [] := by
  have ha : s.alive = [] := hs.held.alive_eq_nil h.slot
  refine ⟨?_, List.filter_eq_nil_iff.mpr fun x hx => by rw [h.line x hx]; simp⟩
  rw [State.living, ha, List.nil_append]
  exact List.filterMap_eq_nil_iff.mpr fun x hx => Claim.stopping?_of_not_isCall (h.line x hx)

end

/-! ## Workers are stopped once -/

/-- The worker in the slot leaves it to be stopped, or nobody is stopped and at most a new worker
takes the slot. -/
theorem Move.stops {script : Script} {c c' : Shared} {hs : List Happening}
    (hm : Move script c hs c') :
    (∃ w, c.slot = some w ∧ c'.slot = none ∧ c'.workers = c.workers ∧
        hs.filterMap Happening.stopped? = [w]) ∨
      hs.filterMap Happening.stopped? = [] ∧ c.workers ≤ c'.workers ∧
        (c'.slot = c.slot ∨ c'.slot = some (c.workers + 1) ∧ c'.workers = c.workers + 1) := by
  cases hm with
  | @task x hx =>
    refine .inr ⟨?_, Nat.le_refl _, .inl rfl⟩
    cases x <;> first | rfl | cases hx
  | request | mark | unmark | pass | die | claim | shutDown | giveUp | skip | startFirst | startNext
  | nothingToStop | stopped | panic => exact .inr ⟨rfl, Nat.le_refl _, .inl rfl⟩
  | stopPrevious hl hd hw | stopLast hl hw => exact .inl ⟨_, hw, rfl, rfl, rfl⟩
  | install hl ht =>
    refine .inr ⟨?_, Nat.le_succ _, .inr ⟨rfl, rfl⟩⟩
    unfold Shared.news
    split <;> rfl
  | fail hl ht hf hw => exact .inr ⟨rfl, hw, .inl rfl⟩

/-- No worker has been stopped twice, and the one in the slot has not been stopped. -/
structure Stops (h : History) (c : Shared) : Prop where
  nodup : h.stopped.Nodup
  known : ∀ w ∈ h.stopped, w ≤ c.workers
  slot : ∀ w, c.slot = some w → w ≤ c.workers ∧ w ∉ h.stopped

namespace Stops

variable {script : Script} {c c' : Shared} {h : History} {hs : List Happening}

theorem stopped_append (h : History) (t : Nat) (hs : List Happening) :
    History.stopped (h ++ hs.map (t, ·)) = h.stopped ++ hs.filterMap Happening.stopped? := by
  rw [History.stopped, List.filterMap_append, List.filterMap_map]; rfl

theorem move (hb : Stops h c) (hm : Move script c hs c') : Stops (h ++ hs.map (c.now, ·)) c' := by
  rcases hm.stops with ⟨w, hw, hw', hn, hhs⟩ | ⟨hhs, hle, hw⟩
  · obtain ⟨hk, hno⟩ := hb.slot w hw
    refine ⟨?_, fun v hv => ?_, fun v hv => ?_⟩
    · rw [stopped_append, hhs, List.nodup_append]
      refine ⟨hb.nodup, by simp, fun v hv u hu => ?_⟩
      rw [List.mem_singleton.mp hu]
      rintro rfl
      exact hno hv
    · rw [stopped_append, hhs] at hv
      rw [hn]
      rcases List.mem_append.mp hv with hv | hv
      · exact hb.known v hv
      · rw [List.mem_singleton.mp hv]; exact hk
    · rw [hw'] at hv; cases hv
  · have hst : History.stopped (h ++ hs.map (c.now, ·)) = h.stopped := by
      rw [stopped_append, hhs, List.append_nil]
    refine ⟨hst ▸ hb.nodup, fun v hv => Nat.le_trans (hb.known v (hst ▸ hv)) hle, fun v hv => ?_⟩
    rw [hst]
    rcases hw with hw | ⟨hw, hn⟩
    · obtain ⟨hk, hno⟩ := hb.slot v (hw ▸ hv)
      exact ⟨Nat.le_trans hk hle, hno⟩
    · -- the worker is new, so it is none of those that have been stopped
      rw [hw] at hv
      cases hv
      exact ⟨Nat.le_of_eq hn.symm, fun hm => absurd (hb.known _ hm) (Nat.not_succ_le_self _)⟩

theorem new : Stops [] State.new.shared := ⟨.nil, nofun, nofun⟩

end Stops

theorem Reachable.stops {script : Script} {s : State} (h : Reachable script s) :
    Stops s.history s.shared := h.invariant .new .move

/-! ## What a shutdown comes to -/

/-- What becomes of the restarts that have not begun when a shutdown is called in a run that leads
to `s`; `past` is what happened before the call. -/
structure State.Halted (script : Script) (s : State) (past : History) : Prop where
  notStarted : ∀ n, n ∉ past.begun → n ∉ s.history.starting
  notStopping : ∀ n, n ∉ past.begun → ∀ u w, (u, .stopCalled (.restart n) w) ∉ s.history
  outcome : ∀ n, n ∉ past.begun → ∀ o, s.tracker.settled? n = some o →
    o = .failed "coordinator shut down"
  /-- They come to their end, whether they have been requested already or are requested later. -/
  ends : ∀ r a, FairRun script r a → r 0 = s → ∀ i n, n ∈ (r i).history.created →
    n ∉ past.begun → ∃ j, i ≤ j ∧ (r j).tracker.settled? n = some (.failed "coordinator shut down")

section
variable {script : Script} {s : State} {past later : History} {t n : Nat}

/-- A restart that has not begun when a shutdown is called never works. -/
theorem Reachable.not_working (hs : Reachable script s)
    (hh : s.history = past ++ (t, .shutdownCalled) :: later) (hn : n ∉ past.begun) {u : Nat}
    {x : Happening} (hx : (u, x) ∈ s.history) : x.working? ≠ some n := fun hxn => by
  obtain ⟨v, hv⟩ := hs.halting.working u x n hx hxn
  exact hs.not_begins hh hn v hv

/-- If it comes to its end it does so by being skipped. -/
theorem Reachable.skipped_of_closed (hs : Reachable script s)
    (hh : s.history = past ++ (t, .shutdownCalled) :: later) (hn : n ∉ past.begun) {u : Nat}
    {x : Happening} (hx : (u, x) ∈ s.history) (hc : x.closed? = some n) :
    x = .ended n .skipped := by
  have hw := hs.not_working hh hn hx
  cases x with
  | ended m k =>
    cases hc
    cases k with
    | skipped => rfl
    | succeeded | failed f => exact absurd rfl hw
  | abandoned m => cases hc; exact absurd rfl hw
  | _ => cases hc

theorem Reachable.settles_of_closed (hs : Reachable script s)
    (hh : s.history = past ++ (t, .shutdownCalled) :: later) (hn : n ∉ past.begun)
    (hc : n ∈ s.history.closed) :
    s.tracker.settled? n = some (.failed "coordinator shut down") := by
  obtain ⟨⟨u, x⟩, hx, hxn⟩ := List.mem_filterMap.mp hc
  obtain rfl := hs.skipped_of_closed hh hn hx hxn
  exact hs.settled?_iff.mpr ⟨u, _, _, hx, rfl, rfl⟩

end

/-- **A shutdown is final.** A restart that has not begun when it is called works no more and fails;
when a call to shut down has come to its end the slot is empty, nobody is alive and nobody calls;
and no worker is stopped twice. -/
theorem shutdown_is_final {script : Script} {s : State} (hs : Reachable script s) :
    (∀ (past later : History) t, s.history = past ++ (t, .shutdownCalled) :: later →
      s.Halted script past) ∧
    (∀ u j, (u, .taskEnded j .shutDown) ∈ s.history →
      s.slot = none ∧ s.living = [] ∧ s.calls = []) ∧
    s.history.stopped.Nodup := by
  refine ⟨fun past later t hh => ?_, fun u j hj => ?_, hs.stops.nodup⟩
  · constructor
    case notStarted =>
      intro n hn hm
      obtain ⟨⟨u, x⟩, hx, hxn⟩ := List.mem_filterMap.mp hm
      cases x <;> cases hxn
      exact hs.not_working hh hn hx rfl
    case notStopping => exact fun n hn u w hx => hs.not_working hh hn hx rfl
    case outcome =>
      intro n hn o ho
      obtain ⟨u, x, f, hx, hxf, -⟩ := hs.settled?_iff.mp ho
      have hc : n ∈ s.history.closed :=
        List.mem_filterMap.mpr ⟨(u, x), hx, Happening.closed?_of_fate? hxf⟩
      rw [hs.settles_of_closed hh hn hc] at ho
      exact (Option.some.inj ho).symm
    case ends =>
      rintro r a hf rfl i n hm hn
      obtain ⟨j, hij, hc⟩ := hf.closes hm
      obtain ⟨k, hk⟩ := hf.history (Nat.zero_le j)
      rw [hh, List.append_assoc, List.cons_append] at hk
      exact ⟨j, hij, (hf.reachable_at j).settles_of_closed hk.symm hn hc⟩
  · have ho := hs.over hj
    exact ⟨ho.slot, living_of_over hs ho⟩

/-- A second restart has been requested when a shutdown is called: it fails, in any fair run. The
worker is stopped by the shutdown, and only once. -/
theorem shutdown_is_final_behind_restart : ∃ s s' : State, Reachable ⟨[], []⟩ s ∧
    (∃ r a j, FairRun ⟨[], []⟩ r a ∧ r 0 = s ∧ s.tracker.settled? 2 = none ∧
      (r j).tracker.settled? 2 = some (.failed "coordinator shut down")) ∧
    Run ⟨[], []⟩ anyAction s s' ∧ s'.slot = none ∧ s'.living = [] ∧ s'.calls = [] ∧
    s'.history.stopped = [1] ∧ s'.history.stopped.Nodup := by
  obtain ⟨s, s', hf, hf', hh, hh', hn, hl, hu⟩ : ∃ s s',
      State.new.follow? ⟨[], []⟩ anyAction
        [.request, .claim 1, .turn, .pass 500, .turn, .request, .spawn .shutdown,
          .poll 0] = some s ∧
      s.follow? ⟨[], []⟩ anyAction [.claim 2, .turn, .pass 50, .turn, .turn] = some s' ∧
      s.history = [(0, .requested 1 false), (0, .began 1 false), (0, .startCalled 1),
        (500, .startReturned 1 .ready), (500, .ended 1 .succeeded), (500, .requested 2 false)] ++
        (500, .shutdownCalled) :: [] ∧
      s'.history = s.history ++ [(500, .stopCalled (.shutdown 0) 1),
        (550, .stopReturned (.shutdown 0) 1 none), (550, .taskEnded 0 .shutDown),
        (550, .began 2 true), (550, .ended 2 .skipped)] ∧
      s.tracker.settled? 2 = none ∧ s'.line = [] ∧ s'.unclaimed = [] :=
    ⟨_, _, rfl, rfl, rfl, rfl, rfl, rfl, rfl⟩
  have hs := (run_follow? hf).reachable .new
  have hrun := run_follow? hf'
  obtain ⟨r, a, hfair, h0, -, -⟩ := FairRun.of_follow? hs hf' hl hu
  have hhalt := (shutdown_is_final hs).1 _ _ _ hh
  obtain ⟨j, -, hj⟩ := hhalt.ends r a hfair h0 0 2 (by rw [h0, hh]; decide) (by decide)
  obtain ⟨-, hover, hnodup⟩ := shutdown_is_final (hrun.reachable hs)
  obtain ⟨hslot, hliv, hcalls⟩ := hover 550 0 (by simp [hh'])
  exact ⟨s, s', hs, ⟨r, a, j, hfair, h0, hn, hj⟩, hrun, hslot, hliv, hcalls, by rw [hh', hh]; rfl,
    hnodup⟩

end DevServer.Restart
