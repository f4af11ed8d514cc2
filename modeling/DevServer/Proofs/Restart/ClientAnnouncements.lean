import DevServer.Proofs.Restart.Announcement
import DevServer.Proofs.Restart.Steps

/-!
# When client builds are announced

A task that holds a client build back is where it is because it was told to wait when it started, so
every announcement of a client build goes back to the state in which the build asked (`Asked`).
`announced_after_restarts_before` says what is in flight then: of the restarts that were requested
before the build asked none is, but one that was requested while the build waited or settled can be
(`announced_while_restarting`).
-/

namespace DevServer.Restart

/-- Whether the task holds a client build back: it waits for a restart, or the build settles. -/
def Task.holdsClient (t : Task) : Bool :=
  match t.stage with
  | .waiting _ => t.errand.forClient
  | .settling _ _ => true
  | .fresh | .receiving _ _ | .claiming | .ended _ | .cancelled => false

/-! ## Who holds client builds back -/

/-- Whoever holds a client build back in `s'` does so in `s` already. -/
def Holds (s s' : State) : Prop :=
  ∀ (j : Nat) (t : Task), s'.tasks[j]? = some t → t.holdsClient = true → s.tasks[j]? = some t

section
variable {script : Script} {s s' s'' : State}

theorem Holds.of_eq (h : s'.tasks = s.tasks) : Holds s s' := fun _ _ ht _ => h ▸ ht

theorem Holds.trans (h1 : Holds s s') (h2 : Holds s' s'') : Holds s s'' :=
  fun j t ht hg => h1 j t (h2 j t ht hg) hg

theorem holds_setStage (i : Nat) {g : Stage}
    (hg : ∀ t : Task, Task.holdsClient { t with stage := g } = false) :
    Holds s (s.setStage i g) := by
  intro j t ht hh
  rw [State.setStage, List.getElem?_modify] at ht
  obtain ⟨t, hu, rfl⟩ := Option.map_eq_some_iff.mp ht
  by_cases hi : i = j
  · rw [if_pos hi, hg] at hh; cases hh
  · rw [if_neg hi]; exact hu

theorem holds_append {t : Task} (hg : t.holdsClient = false) :
    Holds s { s with tasks := s.tasks ++ [t] } := by
  intro j u hu hh
  rcases Nat.lt_or_ge j s.tasks.length with hj | hj
  · rwa [List.getElem?_append_left hj] at hu
  · rw [List.getElem?_append_right hj] at hu
    cases List.mem_singleton.mp (List.mem_of_getElem? hu)
    rw [hg] at hh; cases hh

theorem holds_close (s : State) : Holds s s.close := by
  unfold State.close
  split
  · exact (holds_setStage _ fun _ => rfl).trans (.of_eq rfl)
  · exact .of_eq rfl

theorem holds_send (s : State) (e : Build.Event) : Holds s (s.send e) := by
  unfold State.send
  split
  · exact holds_setStage _ fun _ => rfl
  · exact .of_eq rfl

theorem holds_spawn (s : State) (er : Errand) : Holds s (s.spawn er) := by
  cases er with
  | receive ms => exact (holds_close s).trans ((holds_append rfl).trans (.of_eq rfl))
  | restartWorker | releaseClient | handle | shutdown => exact holds_append rfl

theorem holds_cancel (s : State) (i : Nat) : Holds s (s.cancel i) := by
  unfold State.cancel
  split
  · split
    · exact .of_eq rfl
    · exact (Holds.of_eq rfl).trans (holds_setStage i fun _ => rfl)
  · exact .of_eq rfl

theorem tasks_startReturned (s : State) (n : Nat) (o : StartOutcome) :
    (s.startReturned n o).tasks = s.tasks := by
  cases o with
  | ready =>
    simp only [State.startReturned, State.installWorker]
    split <;> rfl
  | dead | fault | panic => rfl

theorem Turned.holds {hs : List Happening} (h : Turned script s hs s') : Holds s s' := by
  cases h with
  | skip | stopPrevious | startFirst | startNext | stopLast => exact .of_eq rfl
  | install | fail | panic => exact .of_eq (tasks_startReturned ..)
  | nothingToStop | stopped => exact holds_setStage (s := s) _ fun _ => rfl

/-- A task that goes on changes no other. -/
theorem Polled.others {i : Nat} {er : Errand} {g : Stage} (h : Polled s i er g s') {j : Nat}
    (hj : j ≠ i) {t : Task} (ht : s'.tasks[j]? = some t) :
    s.tasks[j]? = some t ∨ t.stage = .fresh := by
  have hset {l : List Task} {g : Stage} (ht : (l.modify i ({ · with stage := g }))[j]? = some t) :
      l[j]? = some t := by
    simpa [List.getElem?_modify, hj.symm] using ht
  cases h with
  | request | restarted | shutDown | hold | pass | announce | released | announceSettled
  | buildFailed | serverRestarted | serverLost | finish => exact .inl (hset ht)
  | @settle _ _ n o => cases o <;> exact .inl (hset ht)
  | @serverBuilt _ _ s₁ _ _ h₁ =>
    have h₁ : s₁.tasks = s.tasks := by rw [h₁]; split <;> rfl
    exact .inl (h₁ ▸ hset (l := s₁.tasks) ht)
  | take h₁ =>
    subst h₁
    rcases Nat.lt_or_ge j s.tasks.length with hl | hl
    · rw [List.getElem?_append_left (by simpa [State.setStage] using hl)] at ht
      exact .inl (hset ht)
    · rw [List.getElem?_append_right (by simpa [State.setStage] using hl)] at ht
      cases List.mem_singleton.mp (List.mem_of_getElem? ht)
      exact .inr rfl
  | idle => exact .inl ht

/-- Whoever holds a client build back did so before, or has just gone on. -/
theorem held_step {a : Action} (h : step script s a = some s') {j : Nat} {t : Task}
    (ht : s'.tasks[j]? = some t) (hg : t.holdsClient = true) :
    s.tasks[j]? = some t ∨ a = .poll j := by
  have hold (hh : Holds s s') : s.tasks[j]? = some t ∨ a = .poll j := .inl (hh j t ht hg)
  cases a with
  | request | mark | unmark | pass => cases h; exact hold (.of_eq rfl)
  | spawn e => cases h; exact hold (holds_spawn s e)
  | send e => cases h; exact hold (holds_send s e)
  | close => cases h; exact hold (holds_close s)
  | cancel i => cases h; exact hold (holds_cancel s i)
  | killWorker =>
    cases h
    refine hold (.of_eq ?_)
    unfold State.killWorker
    split <;> rfl
  | claim n =>
    simp only [step, State.claim] at h
    split at h
    · cases h; exact hold (.of_eq rfl)
    · cases h
  | poll i =>
    by_cases hj : j = i
    · exact .inr (by rw [hj])
    · obtain ⟨tk, -, hp⟩ := polled h
      refine (hp.others hj ht).imp_right fun hf => ?_
      rw [Task.holdsClient, hf] at hg; cases hg
  | turn =>
    obtain ⟨hs, ht⟩ := turned h
    exact hold ht.holds

end

/-! ## Where a client build asked -/

/-- The task `i` has a client build to announce. It asked in `s₀` when it started, was told to wait
for the restart `n`, and has come to `s` since. -/
structure Asked (script : Script) (s₀ : State) (i ms n : Nat) (er : Errand) (s : State) : Prop where
  reachable : Reachable script s₀
  settleMs : er.settleMs? = some ms
  fresh : ∃ number, s₀.tasks[i]? = some ⟨er, .fresh, number⟩
  inFlight : s₀.tracker.inFlight? = some n
  run : Run script anyAction ((s₀.note (.clientWaits n)).setStage i (.waiting n)) s

section
variable {script : Script} {s s' : State} {i : Nat} {t tk : Task}

/-- A task that holds a client build back did so before, or has been told to wait just now. -/
theorem Polled.held (h : Polled s i tk.errand tk.stage s') (hk : s.tasks[i]? = some tk)
    (ht : s'.tasks[i]? = some t) (he : t.errand = tk.errand) (hc : t.holdsClient = true) :
    tk.holdsClient = true ∨ tk.stage = .fresh ∧ ∃ ms n, tk.errand.settleMs? = some ms ∧
      s.tracker.inFlight? = some n ∧ s' = (s.note (.clientWaits n)).setStage i (.waiting n) := by
  have hnot {g : Stage} (hg : t.stage = g) (hn : Task.holdsClient { t with stage := g } = false) :
      False := by
    rw [← hg] at hn
    exact Bool.noConfusion (hn.symm.trans hc)
  generalize her : tk.errand = er at h he
  generalize hst : tk.stage = g at h
  cases h with
  | hold hm hn => exact .inr ⟨rfl, _, _, hm, hn, rfl⟩
  | settle hf ho => exact .inl (by rw [Task.holdsClient, hst, her]; exact hf)
  | request =>
    exact (hnot (stage_setStage ht) (by simp [Task.holdsClient, he, Errand.forClient])).elim
  | serverBuilt hs hv h₁ =>
    exact (hnot (stage_setStage ht) (by simp [Task.holdsClient, he, Errand.forClient, hv])).elim
  | shutDown | restarted | pass | announce | released | announceSettled | buildFailed
  | serverRestarted | serverLost | finish => exact (hnot (stage_setStage ht) rfl).elim
  | take h₁ =>
    subst h₁
    have hi : i < s.tasks.length := (List.getElem?_eq_some_iff.mp hk).1
    rw [List.getElem?_append_left (by simpa [State.setStage] using hi)] at ht
    exact (hnot (stage_setStage ht) rfl).elim
  | idle =>
    obtain rfl := Option.some.inj (ht.symm.trans hk)
    exact (hnot hst rfl).elim

/-- **Whoever holds a client build back was told to wait when it started.** -/
theorem Reachable.asked (hs : Reachable script s) : ∀ (i : Nat) (t : Task), s.tasks[i]? = some t →
    t.holdsClient = true → ∃ s₀ ms n, Asked script s₀ i ms n t.errand s := by
  induction hs with
  | new => exact nofun
  | @step s s' a hs h ih =>
    intro i t ht hc
    have hbefore {tk : Task} (hk : s.tasks[i]? = some tk) (hb : tk.holdsClient = true) :
        ∃ s₀ ms n, Asked script s₀ i ms n tk.errand s' := by
      obtain ⟨s₀, ms, n, ha⟩ := ih i tk hk hb
      exact ⟨s₀, ms, n, ha.reachable, ha.settleMs, ha.fresh, ha.inFlight, ha.run.next rfl h⟩
    rcases held_step h ht hc with hk | rfl
    · exact hbefore hk hc
    · obtain ⟨tk, hk, hp⟩ := polled h
      obtain ⟨t', ht', he, -⟩ := (touches_poll h).task i tk hk
      obtain rfl := Option.some.inj (ht.symm.trans ht')
      rw [he]
      rcases hp.held hk ht he hc with hb | ⟨hf, ms, n, hm, hn, rfl⟩
      · exact hbefore hk hb
      · exact ⟨s, ms, n, hs, hm, ⟨tk.number, by rw [hk, ← hf]⟩, hn, .refl⟩

end

namespace Asked

variable {script : Script} {s₀ s : State} {i ms n : Nat} {er : Errand}

theorem poll (ha : Asked script s₀ i ms n er s) :
    s₀.poll i = some ((s₀.note (.clientWaits n)).setStage i (.waiting n)) := by
  obtain ⟨number, ht⟩ := ha.fresh
  obtain ⟨s', -, heq⟩ := startTask_client s₀ i ha.settleMs
  rw [poll_fresh ht rfl, heq, ha.inFlight]

/-- Once the client build settles, all restarts that had been requested when it asked have ended. -/
theorem closed (ha : Asked script s₀ i ms n er s) {t : Task} (ht : s.tasks[i]? = some t) {due : Nat}
    {o : Outcome} (hg : t.stage = .settling due o) :
    ∀ m ∈ s₀.history.created, m ∈ s.history.closed := by
  intro m hm
  have hs₁ := ha.reachable.step (a := .poll i) ha.poll
  obtain ⟨number, h₀⟩ := ha.fresh
  have hwaits : Gated False i s₀.now ms n er []
      ((s₀.note (.clientWaits n)).setStage i (.waiting n)) :=
    gated_waiting ha.reachable h₀
  obtain ⟨k, -, hgated⟩ := hwaits.run hs₁ ha.settleMs (fun h => absurd h id) ha.run
  obtain ⟨t', ht', -, hgate⟩ := hgated.stage
  obtain rfl := Option.some.inj (ht.symm.trans ht')
  rw [hg] at hgate
  cases hgate with
  | settling ho =>
    have hn : m ∈ upTo n := by
      have hin := ha.inFlight
      rw [ha.reachable.inFlight?_eq] at hin
      split at hin
      · cases hin
      · cases hin
        exact mem_upTo.mpr (ha.reachable.mem_created.mp hm)
    obtain ⟨v, -, hv⟩ := (ha.run.reachable hs₁).ends_before ho m hn
    exact History.mem_closed.mpr ⟨v, hv⟩

end Asked

/-! ## What is in flight when a client build is announced -/

section
variable {script : Script} {s : State} {past later : History} {n u b : Nat}

theorem Reachable.not_in_flight (hs : Reachable script s) (hh : s.history = past ++ later)
    (hn : n ∈ past.closed) : n ∉ past.queued ++ past.running := by
  rw [List.mem_append, History.queued, History.running, List.mem_filter, List.mem_filter]
  rintro (⟨-, h⟩ | ⟨-, h⟩)
  · exact of_decide_eq_true h (hs.begun_of_closed hh hn)
  · exact of_decide_eq_true h hn

/-- A client build is announced by the task that handles it. -/
theorem announced_step {s' : State} {a : Action} {k : History} (h : step script s a = some s')
    (hk : s'.history = s.history ++ k) (hm : (u, .published (.clientBuilt b)) ∈ k) :
    ∃ i t hs, a = .poll i ∧ s.tasks[i]? = some t ∧ Announced s i t.errand t.stage b hs ∧
      k = hs.map (s.now, ·) := by
  obtain ⟨hs, hh, hn⟩ := noted_step h
  obtain rfl : k = hs.map (s.now, ·) := List.append_cancel_left (hk.symm.trans hh)
  have hx := (History.mem_stamp.mp hm).2
  cases hn with
  | turn ht => cases ht.atSlot _ hx
  | @poll i t _ ht _ htold => exact ⟨i, t, hs, rfl, ht, htold b hx, rfl⟩
  | other hno => cases (hno _ hx).2

/-- An announcement is the last but one of what happens with it, and its task ends then. -/
theorem Announced.split {i : Nat} {er : Errand} {g : Stage} {hs : List Happening} {k l : History}
    (h : Announced s i er g b hs)
    (hk : k ++ (u, .published (.clientBuilt b)) :: l = hs.map (s.now, ·)) :
    k = hs.dropLast.dropLast.map (s.now, ·) ∧ u = s.now ∧
      l = [(s.now, .taskEnded i .handled)] := by
  cases h with
  | atOnce =>
    rcases k with _ | ⟨y, _ | ⟨z, k⟩⟩ <;> simp at hk
    exact ⟨rfl, hk⟩
  | settled =>
    rcases k with _ | ⟨y, _ | ⟨z, _ | ⟨w, k⟩⟩⟩ <;> simp at hk
    exact ⟨congrArg (· :: []) hk.1, hk.2⟩

/-- The client build `b` is announced when `past` has happened: the task `i` started to handle it in
`s₀`, and of the restarts requested before then none is queued or running. -/
structure AnnouncedAfter (script : Script) (s : State) (past : History) (b : Nat) (s₀ : State)
    (i : Nat) : Prop where
  reachable : Reachable script s₀
  started : ∃ e ms number, s₀.tasks[i]? = some ⟨.handle e ms, .fresh, number⟩ ∧
    e.success = true ∧ e.target = .client ∧ e.build = b
  run : ∃ s₁, s₀.poll i = some s₁ ∧ Run script anyAction s₁ s
  before : s₀.history <+: past
  /-- With nothing in flight then, the build has not had to wait. -/
  atOnce : s₀.tracker.inFlight? = none → past = s₀.history
  inFlight : ∀ m ∈ past.queued ++ past.running, m ∉ s₀.history.created

/-- **What is in flight when a client build is announced.** Of the restarts that were requested
before the build was handled none is queued or running when browsers are told of it. -/
theorem announced_after_restarts_before (hs : Reachable script s)
    (hh : s.history = past ++ (u, .published (.clientBuilt b)) :: later) :
    ∃ s₀ i, AnnouncedAfter script s past b s₀ i ∧
      later.head? = some (u, .taskEnded i .handled) := by
  obtain ⟨s₁, a, s₂, k, l, hs₁, h, hr, rfl, hl⟩ := hs.happened hh
  obtain ⟨m, -, hm⟩ := hr.evolves
  obtain rfl : later = l ++ m := by
    rw [hh, hl, List.append_assoc] at hm
    simpa using hm
  obtain ⟨i, t, hs', rfl, ht, hann, hk⟩ :=
    announced_step h (hl.trans (List.append_assoc ..)) (u := u) (b := b) (by simp)
  obtain ⟨rfl, rfl, rfl⟩ := hann.split hk
  -- what has ended when it is announced is not in flight
  have hclear {s₀ : State} (hall : ∀ m ∈ s₀.history.created, m ∈ History.closed
        (s₁.history ++ hs'.dropLast.dropLast.map (s₁.now, ·))) :=
    fun m hm hc => hs.not_in_flight hh (hall m hc) hm
  obtain ⟨er, g, number⟩ := t
  cases hann with
  | @atOnce e ms hsm hn =>
    obtain ⟨hsucc, htar, -⟩ := settleMs?_handle hsm
    refine ⟨s₁, i, ⟨hs₁, ⟨e, ms, number, ht, hsucc, htar, rfl⟩, ⟨s₂, h, hr⟩,
      List.prefix_append _ _, fun _ => List.append_nil _, hclear fun m hm => ?_⟩, rfl⟩
    obtain ⟨v, -, hv⟩ := hs₁.closed_of_inFlight? hn m hm
    rw [History.closed_append]
    exact List.mem_append_left _ (History.mem_closed.mpr ⟨v, hv⟩)
  | @settled e ms due o hd =>
    obtain ⟨s₀, ms', n, ha⟩ := hs₁.asked i _ ht rfl
    obtain ⟨hsucc, htar, -⟩ := settleMs?_handle ha.settleMs
    obtain ⟨number', h₀⟩ := ha.fresh
    obtain ⟨j, -, hj⟩ := ha.run.evolves
    refine ⟨s₀, i, ⟨ha.reachable, ⟨e, ms, number', h₀, hsucc, htar, rfl⟩,
      ⟨_, ha.poll, ha.run.trans ((Run.single rfl h).trans hr)⟩, ?_, fun hn => ?_,
      hclear fun m hm => ?_⟩, rfl⟩
    · rw [hj]
      exact ((List.prefix_append _ [_]).trans (List.prefix_append _ _)).trans
        (List.prefix_append _ _)
    · rw [ha.inFlight] at hn; cases hn
    · rw [History.closed_append]
      exact List.mem_append_left _ (ha.closed ht rfl m hm)

end

/-- A client build that has succeeded, after no change that is known. -/
def clientBuild (build : Nat) : Build.Event := ⟨.client, true, build, ⟨0, 0⟩, [], false⟩

/-- While a client build settles after the first restart, a server build asks for a second one,
which starts its worker when the client build is announced. -/
theorem restart_while_settling : ∃ s, Reachable ⟨[], []⟩ s ∧ ∃ past later : History,
    s.history = past ++ (1500, .published (.clientBuilt 1)) :: later ∧
      past.queued = [] ∧ past.running = [2] := by
  obtain ⟨s, hf, hh⟩ : ∃ s,
      State.new.follow? ⟨[], []⟩ anyAction
        [.spawn (.handle (serverBuild 1 false) 1000), .poll 0, .claim 1, .turn,
          .spawn (.handle (clientBuild 1) 1000), .poll 1, .pass 500, .turn, .poll 1, .pass 500,
          .spawn (.handle (serverBuild 2 false) 1000), .poll 2, .claim 2, .turn, .pass 50, .turn,
          .pass 450, .poll 1] = some s ∧
      s.history =
        [(0, .serverBuilt 1), (0, .requested 1 false), (0, .began 1 false), (0, .startCalled 1),
          (0, .clientWaits 1), (500, .startReturned 1 .ready), (500, .ended 1 .succeeded),
          (1000, .serverBuilt 2), (1000, .requested 2 false), (1000, .began 2 false),
          (1000, .stopCalled (.restart 2) 1), (1050, .stopReturned (.restart 2) 1 none),
          (1050, .startCalled 2), (1500, .clientSettled 1)] ++
        (1500, .published (.clientBuilt 1)) :: [(1500, .taskEnded 1 .handled)] :=
    ⟨_, rfl, rfl⟩
  exact ⟨s, (run_follow? hf).reachable .new, _, _, hh, rfl, rfl⟩

/-- The build asked before the second restart was requested. -/
theorem announced_before_second_restart : ∃ s, Reachable ⟨[], []⟩ s ∧
    ∃ (past later : History) (s₀ : State) (i : Nat),
    s.history = past ++ (1500, .published (.clientBuilt 1)) :: later ∧ past.running = [2] ∧
      AnnouncedAfter ⟨[], []⟩ s past 1 s₀ i ∧ 2 ∉ s₀.history.created := by
  obtain ⟨s, hs, past, later, hh, -, hrun⟩ := restart_while_settling
  obtain ⟨s₀, i, ha, -⟩ := announced_after_restarts_before hs hh
  exact ⟨s, hs, past, later, s₀, i, hh, hrun, ha, ha.inFlight 2 (by rw [hrun]; simp)⟩

/-- A client build can be announced while a restart is running: one that was requested when the
build had asked already. -/
theorem announced_while_restarting : ¬∀ (script : Script) (s : State) (past later : History)
    (u b : Nat), Reachable script s →
      s.history = past ++ (u, .published (.clientBuilt b)) :: later →
      past.queued = [] ∧ past.running = [] := by
  intro hall
  obtain ⟨s, hs, past, later, hh, -, hrun⟩ := restart_while_settling
  rw [(hall _ s past later 1500 1 hs hh).2] at hrun
  cases hrun

end DevServer.Restart
