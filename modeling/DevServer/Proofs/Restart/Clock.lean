import DevServer.Proofs.Restart.CoreSteps

/-!
# The clock of a core

At rest everybody waits for a time or for somebody else (`Stage.Blocked`), so the clock may stop
anywhere on its way (`till_stop`). The clock of a state stops where that of its core does, and at
times that are nothing to the core: letting time pass does the same to the core as to the state
(`core_wait`).
-/

namespace DevServer.Restart

/-- Why a task does not go on: it waits for a restart that has not ended, for a time, for an event
or for the slot, or it is over. -/
def Stage.Blocked (s : State) : Stage → Prop
  | .fresh => False
  | .waiting ticket => s.tracker.settled? ticket = none
  | .settling due _ => s.now < due
  | .receiving events isOpen => events = [] ∧ isOpen = true
  | .claiming | .ended _ | .cancelled => True

section
variable {script : Script} {s s' : State} {i d time : Nat} {t : Task}

theorem restartSettled_ne_none {er : Errand} (h : er.onlyWaits = true) (s : State) (i n : Nat)
    (o : Outcome) : s.restartSettled i n o er ≠ none := by
  cases er with
  | restartWorker | releaseClient => simp [State.restartSettled]
  | handle e ms => simp only [State.restartSettled]; split <;> simp
  | receive | shutdown => cases h

theorem clientSettled_ne_none {er : Errand} (h : er.forClient = true) (s : State) (i : Nat)
    (o : Outcome) : s.clientSettled i o er ≠ none := by
  cases er with
  | releaseClient | handle => nofun
  | restartWorker | receive | shutdown => cases h

theorem poll_eq_none_iff (hf : t.errand.Fits t.stage) (ht : s.tasks[i]? = some t) :
    s.poll i = none ↔ t.stage.Blocked s := by
  cases hg : t.stage with
  | fresh => simp [poll_fresh ht hg, Stage.Blocked]
  | waiting n =>
    rw [hg] at hf
    rw [poll_waiting ht hg]
    rcases ho : s.tracker.settled? n with _ | o
    · simp [Stage.Blocked, ho]
    · simp [Stage.Blocked, ho, restartSettled_ne_none hf]
  | settling due o =>
    rw [hg] at hf
    rw [poll_settling ht hg]
    split
    · next h => simp [Stage.Blocked, clientSettled_ne_none hf, h]
    · next h => simpa [Stage.Blocked] using h
  | receiving es isOpen =>
    rw [hg] at hf
    obtain ⟨ms, he⟩ := hf
    have hp : s.poll i = s.receive i ms isOpen es := by simp [State.poll, ht, hg, he]
    rw [hp]
    cases es <;> cases isOpen <;> simp [State.receive, Stage.Blocked]
  | claiming | ended | cancelled => simp [State.poll, ht, hg, Stage.Blocked]

theorem turn_eq_none_iff {x : Claim} {rest : List Claim} (hl : s.line = x :: rest) :
    s.turn script = none ↔ s.now < x.due := by
  constructor
  · intro h
    exact Nat.lt_of_not_le fun hd => turn_ne_none hl hd h
  · intro h
    unfold State.turn
    rw [hl]
    cases x with
    | enters => cases h
    | stops owner w due f => simp [Nat.not_le.mpr (show s.now < due from h)]
    | starts n due o => simp [Nat.not_le.mpr (show s.now < due from h)]

/-- Everybody waits for somebody else or for a time to come. -/
theorem still_iff_blocked (hf : s.Fit) : s.Still script ↔
    (∀ t ∈ s.tasks, t.stage.Blocked s) ∧ s.unclaimed = [] ∧ ∀ x ∈ s.line.head?, s.now < x.due := by
  rw [still_iff]
  constructor
  · intro h
    refine ⟨fun t ht => ?_, ?_, ?_⟩
    · obtain ⟨i, hi⟩ := List.mem_iff_getElem?.mp ht
      exact (poll_eq_none_iff (hf t ht) hi).mp (h (.poll i) rfl)
    · refine List.eq_nil_iff_forall_not_mem.mpr fun n hn => ?_
      have := h (.claim n) rfl
      simp [step, State.claim, hn] at this
    · intro x hx
      rcases hl : s.line with _ | ⟨y, rest⟩
      · rw [hl] at hx; cases hx
      · rw [hl] at hx
        cases hx
        exact (turn_eq_none_iff hl).mp (h .turn rfl)
  · rintro ⟨ht, hu, hl⟩ a ha
    cases a with
    | poll i =>
      rcases hi : s.tasks[i]? with _ | t
      · simp [step, State.poll, hi]
      · have hm := List.mem_of_getElem? hi
        exact (poll_eq_none_iff (hf t hm) hi).mpr (ht t hm)
    | claim n => simp [step, State.claim, hu]
    | turn =>
      rcases hline : s.line with _ | ⟨x, rest⟩
      · simp [step, State.turn, hline]
      · exact (turn_eq_none_iff hline).mpr (hl x (by rw [hline]; rfl))
    | _ => cases ha

/-- Nothing happens before the next deadline. -/
theorem still_pass (hf : s.Fit) (hst : s.Still script)
    (hd : ∀ e ∈ s.deadlines, s.now < e → d < e) : State.Still script { s with now := d } := by
  obtain ⟨ht, hu, hl⟩ := (still_iff_blocked hf).mp hst
  have hfd : State.Fit { s with now := d } := hf.of_tasks rfl
  refine (still_iff_blocked hfd).mpr ⟨fun t hm => ?_, hu, ?_⟩
  · have hb := ht t hm
    cases hg : t.stage with
    | settling due o =>
      rw [hg] at hb
      exact hd due (mem_deadlines.mpr (.inl ⟨t, hm, o, hg⟩)) hb
    | _ => rw [hg] at hb; exact hb
  · intro x hx
    have hb := hl x hx
    obtain ⟨rest, hline⟩ : ∃ rest, s.line = x :: rest := by
      rcases h : s.line with _ | ⟨y, rest⟩
      · rw [h] at hx; cases hx
      · rw [h] at hx; cases hx; exact ⟨rest, rfl⟩
    cases x with
    | enters => cases hb
    | stops | starts =>
      exact hd _ (mem_deadlines.mpr (.inr ⟨_, rest, hline, rfl, rfl⟩)) hb

theorem moveClock_pass (script : Script) (hf : s.Fit) (hst : s.Still script) (hle : s.now ≤ d)
    (hd : ∀ e ∈ s.deadlines, s.now < e → d < e) :
    s.moveClock script d = { s with now := d } := by
  have hnow : s.now + (d - s.now) = d := by omega
  rw [moveClock_eq, hnow]
  exact rest_of_still (still_pass hf hst hd)

theorem moveClock_after (script : Script) (hle : s.now ≤ d) (hdt : d ≤ time) :
    State.moveClock script { s with now := d } time = s.moveClock script time := by
  have h : d + (time - d) = s.now + (time - s.now) := by omega
  rw [moveClock_eq, moveClock_eq]
  exact congrArg (fun n => State.rest script { s with now := n }) h

/-- Time that passes before the next deadline may pass at once. -/
theorem till_after (script : Script) (hle : s.now ≤ d)
    (hd : ∀ e ∈ s.deadlines, s.now < e → d < e) (hdt : d ≤ time) :
    State.till script { s with now := d } time = s.till script time := by
  have hfilter : s.deadlines.filter (d < ·) = s.deadlines.filter (s.now < ·) := by
    refine List.filter_congr fun e he => ?_
    rw [decide_eq_decide]
    exact ⟨Nat.lt_of_le_of_lt hle, hd e he⟩
  have hnext : State.nextDeadline? { s with now := d } = s.nextDeadline? :=
    congrArg List.min? hfilter
  show State.clockTo script time s.work { s with now := d } = State.clockTo script time s.work s
  generalize s.work = n
  cases n with
  | zero => exact moveClock_after script hle hdt
  | succ n =>
    simp only [State.clockTo, hnext, moveClock_after script hle hdt]
    split
    · next due hdue =>
      obtain ⟨hm, hlt, -⟩ := nextDeadline?_eq_some_iff.mp hdue
      rw [moveClock_after script hle (Nat.le_of_lt (hd due hm hlt))]
    · rfl

/-- The clock may stop anywhere before the next deadline, or at it. -/
theorem till_stop (script : Script) (hf : s.Fit) (hst : s.Still script) (hlt : s.now < d)
    (hd : ∀ e ∈ s.deadlines, s.now < e → d ≤ e) (hle : d ≤ time) :
    s.till script time = (s.moveClock script d).till script time := by
  by_cases hm : d ∈ s.deadlines
  · exact till_hop hf (nextDeadline?_eq_some_iff.mpr ⟨hm, hlt, hd⟩) hle
  · have hd' (e : Nat) (he : e ∈ s.deadlines) (hne : s.now < e) : d < e :=
      Nat.lt_of_le_of_ne (hd e he hne) fun h => hm (h ▸ he)
    rw [moveClock_pass script hf hst (Nat.le_of_lt hlt) hd',
      till_after script (Nat.le_of_lt hlt) hd' hle]

/-! ## The core -/

theorem State.Sound.pass (hs : s.Sound) (time : Nat) : State.Sound { s with now := time } :=
  ⟨hs.fit.of_tasks rfl, hs.claimed, hs.inbox⟩

theorem State.Sound.moveClock (script : Script) (hs : s.Sound) (time : Nat) :
    (s.moveClock script time).Sound := (hs.pass _).rest script

theorem core_moveClock (script : Script) (hs : s.Sound) (time : Nat) :
    (s.moveClock script time).core = (s.core.moveClock script time).core :=
  core_rest script (hs.pass _)

theorem still_core (hs : s.Sound) (hst : s.Still script) : s.core.Still script := by
  have hmirror := mirrors_move? script hs
  rw [show s.move? script = none from hst] at hmirror
  generalize hc : s.core.move? script = c at hmirror
  cases hmirror
  exact hc

/-- What is a deadline to the core is one to the state. -/
theorem deadline_of_core (hd : d ∈ s.core.deadlines) : d ∈ s.deadlines := by
  rcases mem_deadlines.mp hd with ⟨u, hu, o, hg⟩ | ⟨y, rest, hl, hcall, hdue⟩
  · obtain ⟨t, -, ht⟩ := List.mem_filterMap.mp hu
    cases hc : t.errand.forClient with
    | true => rw [Task.core?_of_client hc] at ht; cases ht
    | false =>
      rw [Task.core?_of_not_client hc] at ht
      cases ht
      cases h : t.stage <;> rw [h] at hg <;> cases hg
  · obtain ⟨x, r, hline, hx, -⟩ := List.map_eq_cons_iff.mp hl
    refine mem_deadlines.mpr (.inr ⟨x, r, hline, ?_⟩)
    subst hx
    cases x with
    | enters => cases hcall
    | stops | starts => exact ⟨rfl, hdue⟩

/-- A deadline that is nothing to the core is a client build's, for which the state has work left.
-/
theorem work_core_lt (hs : s.Sound) (hd : d ∈ s.deadlines) (hn : d ∉ s.core.deadlines) :
    s.core.work < s.work := by
  rcases mem_deadlines.mp hd with ⟨t, ht, o, hg⟩ | ⟨x, rest, hl, hcall, hdue⟩
  · obtain ⟨i, hi⟩ := List.mem_iff_getElem?.mp ht
    have hc := hs.fit t ht
    rw [hg] at hc
    have hw := work_setStage hi .cancelled
    have hle := work_core_le (s.setStage i .cancelled)
    rw [core_setStage_same hi (.inl hc)] at hle
    simp only [hg, Stage.work] at hw
    omega
  · have hlc : s.core.line = x.renumber s.rank :: rest.map (·.renumber s.rank) :=
      congrArg (List.map _) hl
    refine absurd (mem_deadlines.mpr (.inr ⟨_, _, hlc, ?_⟩)) hn
    cases x with
    | enters => cases hcall
    | stops | starts => exact ⟨rfl, hdue⟩

/-- **The clock does the same to the core of a state as to the state.** -/
theorem core_till (script : Script) {s : State} (hs : s.Sound) (hst : s.Still script) :
    (s.till script time).core = (s.core.till script time).core := by
  have hcst := still_core hs hst
  by_cases h : ∀ e ∈ s.deadlines, s.now < e → time < e
  · rw [till_last h, till_last fun e he hne => h e (deadline_of_core he) hne]
    exact core_moveClock script hs time
  · rcases hd : s.nextDeadline? with _ | d
    · refine absurd (fun e he hne => ?_) h
      have := nextDeadline?_eq_none hd e he
      omega
    · obtain ⟨hm, hlt, hmin⟩ := nextDeadline?_eq_some_iff.mp hd
      have hdt : d ≤ time := Nat.le_of_not_lt fun hlt => h fun e he hne =>
        Nat.lt_of_lt_of_le hlt (hmin e he hne)
      have hminc (e : Nat) (he : e ∈ s.core.deadlines) (hne : s.now < e) : d ≤ e :=
        hmin e (deadline_of_core he) hne
      have hw := work_nextDeadline_lt script hs.fit hd
      have hwc : (s.core.moveClock script d).work < s.work := by
        by_cases hmc : d ∈ s.core.deadlines
        · exact Nat.lt_of_lt_of_le (work_moveClock_lt script hs.core.fit hmc hlt) (work_core_le s)
        · have hle : (s.core.moveClock script d).work ≤ s.core.work :=
            work_rest_le (hs.core.fit.of_tasks rfl)
          exact Nat.lt_of_le_of_lt hle (work_core_lt hs hm hmc)
      rw [till_hop hs.fit hd hdt, till_stop script hs.core.fit hcst hlt hminc hdt,
        core_till script (hs.moveClock script d) (still_moveClock hs.fit d),
        core_till script (hs.core.moveClock script d) (still_moveClock hs.core.fit d),
        core_moveClock script hs d]
termination_by s.work

/-- While nothing is due in the core, time passes for it and nothing else. -/
theorem core_till_idle (script : Script) (hs : s.Sound) (hst : s.Still script)
    (hle : s.now ≤ time) (hd : ∀ e ∈ s.core.deadlines, s.now < e → time < e) :
    (s.till script time).core = { s.core with now := time } := by
  have hpass : s.core.moveClock script time = { s.core with now := time } :=
    moveClock_pass script hs.core.fit (still_core hs hst) hle hd
  rw [core_till script hs hst, till_last hd, hpass]
  exact congrArg (fun c => { c with now := time }) (core_core s)

theorem core_wait (script : Script) (hs : s.Sound) (hst : s.Still script) (ms : Nat) :
    (s.wait script ms).core = (s.core.wait script ms).core :=
  core_till script hs hst

end

end DevServer.Restart
