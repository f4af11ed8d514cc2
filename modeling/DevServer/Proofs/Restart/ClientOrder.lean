import DevServer.Proofs.Restart.Handling

/-!
# The order of client builds

A client build that no restart holds back is announced at once, and one that waited settles first, so
a later build can get ahead of an earlier one (`later_build_announced_first`). That happens exactly
when it is handled while the earlier one settles and no restart is in flight, and it is announced
then; otherwise no build is announced before the moment at which the builds handled before it are
(`later_build_first_iff`).
-/

namespace DevServer.Restart

/-! ## Tasks that are over -/

section
variable {script : Script} {ok : State → Action → Bool} {s s' : State} {i : Nat} {t : Task}
  {r : Result}

/-- A task that has ended, and is not a shutdown's, is left as it is and does not end again. -/
theorem ended_step {a : Action} (hs : Reachable script s) (ht : s.tasks[i]? = some t)
    (hg : t.stage = .ended r) (he : t.errand ≠ .shutdown) (h : step script s a = some s') :
    s'.tasks[i]? = some t ∧
      ∃ k, s'.history = s.history ++ k ∧ ∀ u r, (u, .taskEnded i r) ∉ k := by
  by_cases hpass : ∃ ms, a = .pass ms
  · obtain ⟨ms, rfl⟩ := hpass
    cases h
    exact ⟨ht, [], by simp, nofun⟩
  · by_cases hc : s.Concerns i a
    · rcases hc with rfl | rfl | ⟨x, hx, hxo⟩ | ⟨es, isOpen, hst⟩
      · have hnone : s.poll i = none := by simp [State.poll, ht, hg]
        cases hnone.symm.trans h
      · have hsame : s.cancel i = s := by simp [State.cancel, State.stage?, ht, hg, Stage.isOver]
        obtain rfl : s' = s := (Option.some.inj h).symm.trans hsame
        exact ⟨ht, [], by simp, nofun⟩
      · obtain ⟨t', ht', he'⟩ := hs.claimant x hx i hxo
        obtain rfl := Option.some.inj (ht.symm.trans ht')
        exact absurd he' he
      · rw [State.stage?, ht, Option.map_some, hg] at hst
        cases hst
    · obtain ⟨j, hj, htouch⟩ := spares_step h (fun p hp => hpass ⟨p, hp⟩) hc
      obtain ⟨t', ht', -, hkeep⟩ := htouch.task i t ht
      obtain ⟨k, hk, hend⟩ := htouch.ended
      exact ⟨by rw [ht', hkeep hj], k, hk, fun u r hm => hj (hend u i r hm)⟩

theorem ended_run (hs : Reachable script s) (ht : s.tasks[i]? = some t)
    (hg : t.stage = .ended r) (he : t.errand ≠ .shutdown) (hr : Run script ok s s') :
    s'.tasks[i]? = some t ∧
      ∃ k, s'.history = s.history ++ k ∧ ∀ u r, (u, .taskEnded i r) ∉ k := by
  induction hr with
  | refl => exact ⟨ht, [], by simp, nofun⟩
  | next hr _ h ih =>
    obtain ⟨ht', k, hk, hend⟩ := ih
    obtain ⟨ht'', l, hl, hend'⟩ := ended_step (hr.reachable hs) ht' hg he h
    refine ⟨ht'', k ++ l, by rw [hl, hk, List.append_assoc], fun u r hm => ?_⟩
    exact (List.mem_append.mp hm).elim (hend u r) (hend' u r)

end

/-! ## When a client build is announced -/

/-- The task `i` starts to handle the client build `e`, which has succeeded, in the step from `s` to
`s'`. -/
structure Handles (s s' : State) (i : Nat) (e : Build.Event) (ms : Nat) : Prop where
  task : ∃ number, s.tasks[i]? = some ⟨.handle e ms, .fresh, number⟩
  success : e.success = true
  target : e.target = .client
  poll : s.poll i = some s'

/-- Since `s`, the task `i` has announced the client build `b` at the time `u`, and ended. -/
def AnnouncedSince (s s' : State) (i b u : Nat) : Prop :=
  ∃ k, s'.history = s.history ++ k ∧
    [(u, .published (.clientBuilt b)), (u, .taskEnded i .handled)] <:+: k

section
variable {script : Script} {ok : State → Action → Bool} {s s' s'' : State} {i b u ms n : Nat}
  {e : Build.Event}

theorem AnnouncedSince.ended (h : AnnouncedSince s s' i b u) {k : History}
    (hk : s'.history = s.history ++ k) : (u, .taskEnded i .handled) ∈ k := by
  obtain ⟨l, hl, hin⟩ := h
  obtain rfl : k = l := List.append_cancel_left (hk.symm.trans hl)
  exact hin.subset (by simp)

theorem Handles.settleMs? (h : Handles s s' i e ms) : (Errand.handle e ms).settleMs? = some ms := by
  simp [Errand.settleMs?, h.success, h.target]

/-- What handling a client build leads to. -/
theorem Handles.eq (h : Handles s s' i e ms) : s' = match s.tracker.inFlight? with
    | some n => (s.note (.clientWaits n)).setStage i (.waiting n)
    | none => s.announceClient i e := by
  obtain ⟨number, ht⟩ := h.task
  have hp := h.poll
  rw [poll_fresh ht rfl] at hp
  rw [← Option.some.inj hp]
  simp only [State.startTask, State.handleFresh, State.gateClient, h.success, h.target]
  rfl

/-- A client build that no restart holds back is announced where it is handled. -/
theorem Handles.announced_at (h : Handles s s' i e ms) (hs : Reachable script s)
    (hn : s.tracker.inFlight? = none) (hr : Run script ok s' s'')
    (hu : AnnouncedSince s s'' i b u) : u = s.now := by
  obtain ⟨number, ht⟩ := h.task
  have hs' : s' = s.announceClient i e := by rw [h.eq, hn]
  have ht' : s'.tasks[i]? = some ⟨.handle e ms, .ended .handled, number⟩ := by
    simp [hs', State.announceClient, State.endTask, State.note, State.setStage, ht]
  have hh' : s'.history = s.history ++
      [(s.now, .published (.clientBuilt e.build)), (s.now, .taskEnded i .handled)] := by
    rw [hs']; exact List.append_assoc ..
  obtain ⟨-, k, hk, hend⟩ :=
    ended_run (hs.step (a := .poll i) h.poll) ht' rfl (by simp) hr
  rw [hh', List.append_assoc] at hk
  rcases List.mem_append.mp (hu.ended hk) with hm | hm
  · simpa using hm
  · exact absurd hm (hend u _)

/-- One that waits for a restart is announced when that has ended and the build has settled. -/
theorem Handles.announced_after (h : Handles s s' i e ms) (hs : Reachable script s)
    (hn : s.tracker.inFlight? = some n) (exact : Prop)
    (hok : exact → ∀ s a, ok s a = true → s.prompt script a = true) (hr : Run script ok s' s'')
    (hu : AnnouncedSince s s'' i b u) :
    ∃ v o, s''.history.Settles n v o ∧ max s.now v + ms ≤ u ∧
      (exact → u = max s.now v + ms) := by
  obtain ⟨number, ht⟩ := h.task
  have hs' : s' = (s.note (.clientWaits n)).setStage i (.waiting n) := by rw [h.eq, hn]
  have hgated : Gated exact i s.now ms n (.handle e ms) [] s' := by
    rw [hs']; exact gated_waiting hs ht
  obtain ⟨k, hk, hg⟩ := hgated.run (hs.step (a := .poll i) h.poll) h.settleMs? hok hr
  have hh : s''.history = s.history ++ ((s.now, .clientWaits n) :: k) := by
    rw [hk, hs']; exact List.append_assoc ..
  have hm : (u, .taskEnded i .handled) ∈ k := by
    rcases List.mem_cons.mp (hu.ended hh) with hm | hm
    · cases hm
    · exact hm
  obtain ⟨v, o, ho, -, hle, heq⟩ := hg.told u _ hm
  exact ⟨v, o, ho, hle, heq⟩

end

/-! ## One build after the other -/

section
variable {script : Script} {s : State} {m n v w : Nat} {o p : Outcome}

theorem History.exists_settles {h : History} (hm : (n, v) ∈ h.ends) : ∃ o, h.Settles n v o := by
  rcases History.mem_ends.mp hm with ⟨c, hx⟩ | hx
  · exact ⟨_, _, _, hx, rfl, rfl⟩
  · exact ⟨_, _, _, hx, rfl, rfl⟩

/-- Restarts come to their ends in the order in which they were created. -/
theorem Reachable.settles_le (hs : Reachable script s) (hn : s.history.Settles n v o)
    (hm : s.history.Settles m w p) (hpos : 0 < n) (hle : n ≤ m) : v ≤ w := by
  obtain ⟨x, hx, hend⟩ := hs.ends_before hm n (mem_upTo.mpr ⟨hpos, hle⟩)
  obtain ⟨_, hn'⟩ := History.exists_settles hend
  rw [(hs.settles_unique hn hn').1]
  exact hx

/-- The restart in flight is the last one that was created. -/
theorem Reachable.eq_created_of_inFlight? (hs : Reachable script s)
    (h : s.tracker.inFlight? = some n) : n = s.tracker.created ∧ 0 < n := by
  rw [hs.inFlight?_eq] at h
  split at h
  · cases h
  · next hc => cases h; omega

end

/-- What the announcements of two client builds at `u₁` and `u₂` have to do with one another. The task
`i` starts to handle the first build in `s₁`, the second one is handled later, in `s₂`, and `s` is the
state in the end. Builds that the same restart holds back are announced at one moment, in either order:
the times leave that open. -/
structure InTurn (prompt : Prop) (s₁ s₂ s : State) (i b ms u₁ u₂ : Nat) : Prop where
  /-- A build that no restart holds back is announced before any other is handled. -/
  first : s₁.tracker.inFlight? = none → u₁ = s₁.now ∧ u₁ ≤ u₂ ∧ AnnouncedSince s₁ s₂ i b u₁
  second : s₂.tracker.inFlight? = none → u₂ = s₂.now
  /-- The second gets ahead if no restart holds it back while the first is not announced. -/
  ahead : prompt → (u₂ < u₁ ↔ s₂.tracker.inFlight? = none ∧ s₂.now < u₁)
  /-- Then the first has waited for a restart, which has ended, and settles. -/
  settling : prompt → u₂ < u₁ → ∃ n v, s₁.tracker.inFlight? = some n ∧ (n, v) ∈ s.history.ends ∧
    v ≤ u₂ ∧ u₁ = max s₁.now v + ms

section
variable {script : Script} {ok : State → Action → Bool} {s₁ s₁' s₂ s₂' s : State}
  {i j ms u₁ u₂ n m : Nat} {a b : Build.Event}

theorem Run.now_le (hr : Run script ok s₁ s₂) : s₁.now ≤ s₂.now := by
  obtain ⟨k, hm, -⟩ := hr.evolves
  exact (hm.timely ⟨.nil, nofun⟩).1

/-- A build that no restart holds back has been announced when another one is handled. -/
theorem Handles.announcedSince (h : Handles s₁ s₁' i a ms) (hn : s₁.tracker.inFlight? = none)
    (hr : Run script ok s₁' s₂) : AnnouncedSince s₁ s₂ i a.build s₁.now := by
  obtain ⟨k, -, hk⟩ := hr.evolves
  have hs : s₁'.history = s₁.history ++
      [(s₁.now, .published (.clientBuilt a.build)), (s₁.now, .taskEnded i .handled)] := by
    rw [h.eq, hn]; exact List.append_assoc ..
  exact ⟨_, by rw [hk, hs, List.append_assoc], (List.prefix_append _ k).isInfix⟩

/-- The step that handles the build, and the run after it. -/
theorem Handles.run (h : Handles s₁ s₁' i a ms) (hr : Run script ok s₁' s₂) :
    Run script anyAction s₁ s₂ :=
  (Run.single (a := .poll i) rfl h.poll).trans (hr.mono fun _ _ _ => rfl)

theorem Handles.reachable (h : Handles s₁ s₁' i a ms) (hs : Reachable script s₁) :
    Reachable script s₁' := hs.step (a := .poll i) h.poll

/-- The runs before and after a build is handled make up one run, which is prompt if both are. -/
theorem Handles.between (h : Handles s₂ s₂' j b ms) (hr₁ : Run script ok s₁' s₂)
    (hr₂ : Run script ok s₂' s) :
    Run script (fun s a => ok s a || s.prompt script a) s₁' s := by
  have hpoll : Run script (fun s a => ok s a || s.prompt script a) s₂ s₂' :=
    .single (a := .poll j) (by simp [State.prompt]) h.poll
  refine ((hr₁.mono ?_).trans hpoll).trans (hr₂.mono ?_)
  all_goals intro s a ha; simp [ha]

/-- The restart that a build waits for has been created when a later build is handled. -/
theorem Handles.created (h : Handles s₁ s₁' i a ms) (hs : Reachable script s₁)
    (hn : s₁.tracker.inFlight? = some n) (hr : Run script ok s₁' s₂) :
    n ∈ s₂.history.created := by
  obtain ⟨k, -, hk⟩ := (h.run hr).evolves
  obtain ⟨rfl, hpos⟩ := hs.eq_created_of_inFlight? hn
  rw [hk, History.created_append]
  exact List.mem_append_left _ (hs.mem_created.mpr ⟨hpos, Nat.le_refl _⟩)

/-- A build is not announced before it is handled. -/
theorem Handles.now_le_announced (h : Handles s₁ s₁' i a ms) (hs : Reachable script s₁)
    (hr : Run script ok s₁' s) (hu : AnnouncedSince s₁ s i a.build u₁) : s₁.now ≤ u₁ := by
  cases hn : s₁.tracker.inFlight? with
  | none => exact Nat.le_of_eq (h.announced_at hs hn hr hu).symm
  | some n =>
    obtain ⟨v, o, -, hle, -⟩ := h.announced_after hs hn False nofun hr hu
    omega

/-- Of two builds that wait for restarts, the one that is handled first has settled first. -/
theorem settled_in_turn (hs : Reachable script s) (hs₁ : Reachable script s₁)
    (hs₂ : Reachable script s₂) (hr : Run script ok s₁' s₂) (h₁ : Handles s₁ s₁' i a ms)
    (hn : s₁.tracker.inFlight? = some n) (hm : s₂.tracker.inFlight? = some m) {v w : Nat}
    {o p : Outcome} (hv : s.history.Settles n v o) (hw : s.history.Settles m w p) :
    max s₁.now v + ms ≤ max s₂.now w + ms := by
  have hcreated : n ≤ m := by
    rw [(hs₂.eq_created_of_inFlight? hm).1]
    exact (hs₂.mem_created.mp (h₁.created hs₁ hn hr)).2
  have hnow : s₁.now ≤ s₂.now := (h₁.run hr).now_le
  have hend : v ≤ w := hs.settles_le hv hw (hs₁.eq_created_of_inFlight? hn).2 hcreated
  omega

/-- **When a later build gets ahead of an earlier one**, in a run in which the one is handled after
the other. -/
theorem later_build_first_iff (hs₁ : Reachable script s₁) (h₁ : Handles s₁ s₁' i a ms)
    (hr₁ : Run script ok s₁' s₂) (h₂ : Handles s₂ s₂' j b ms) (hr₂ : Run script ok s₂' s)
    (hu₁ : AnnouncedSince s₁ s i a.build u₁) (hu₂ : AnnouncedSince s₂ s j b.build u₂) :
    InTurn (∀ s a, ok s a = true → s.prompt script a = true) s₁ s₂ s i a.build ms u₁ u₂ := by
  have hs₂ : Reachable script s₂ := hr₁.reachable (h₁.reachable hs₁)
  have hs : Reachable script s := hr₂.reachable (h₂.reachable hs₂)
  have hr := h₂.between hr₁ hr₂
  have hnow : s₁.now ≤ s₂.now := (h₁.run hr₁).now_le
  have hle : s₂.now ≤ u₂ := h₂.now_le_announced hs₂ hr₂ hu₂
  have hsecond (hm : s₂.tracker.inFlight? = none) : u₂ = s₂.now := h₂.announced_at hs₂ hm hr₂ hu₂
  cases hn : s₁.tracker.inFlight? with
  | none =>
    have hfirst : u₁ = s₁.now := h₁.announced_at hs₁ hn hr hu₁
    refine ⟨fun _ => ⟨hfirst, by omega, hfirst ▸ h₁.announcedSince hn hr₁⟩, hsecond, fun _ => ?_,
      fun _ hlt => by omega⟩
    constructor <;> omega
  | some n =>
    obtain ⟨v, o, hv, -, heq⟩ := h₁.announced_after hs₁ hn
      (∀ s a, ok s a = true → s.prompt script a = true)
      (fun hok s a ha => (Bool.or_eq_true_iff.mp ha).elim (hok s a) id) hr hu₁
    have hclear (hok : ∀ s a, ok s a = true → s.prompt script a = true) (hlt : u₂ < u₁) :
        s₂.tracker.inFlight? = none := by
      cases hm : s₂.tracker.inFlight? with
      | none => rfl
      | some m =>
        obtain ⟨w, p, hw, hle, -⟩ := h₂.announced_after hs₂ hm False nofun hr₂ hu₂
        have hturn := settled_in_turn hs hs₁ hs₂ hr₁ h₁ hn hm hv hw
        have hu := heq hok
        omega
    refine ⟨fun h => absurd (hn.symm.trans h) nofun, hsecond,
      fun hok => ⟨fun hlt => ?_, fun ⟨hm, hlt⟩ => ?_⟩, fun hok hlt => ?_⟩
    · exact ⟨hclear hok hlt, Nat.lt_of_le_of_lt hle hlt⟩
    · rw [hsecond hm]
      exact hlt
    · obtain ⟨v', hv', hend⟩ := hs₂.closed_of_inFlight? (hclear hok hlt) n (h₁.created hs₁ hn hr₁)
      obtain ⟨k, -, hk⟩ := (h₂.run hr₂).evolves
      have hends : (n, v') ∈ s.history.ends := by
        rw [hk, History.ends_append]
        exact List.mem_append_left _ hend
      obtain ⟨_, ho⟩ := History.exists_settles hends
      obtain rfl : v' = v := (hs.settles_unique ho hv).1
      exact ⟨n, v', hn, hends, Nat.le_trans hv' hle, heq hok⟩

end

/-- The first of two client builds has waited for a restart and settles when the second is handled:
this one is announced then, and the first one half a second later. -/
theorem later_build_first_while_settling : ∃ s₁ s₁' s₂ s₂' s : State, Reachable ⟨[], []⟩ s₁ ∧
    Run ⟨[], []⟩ (State.prompt ⟨[], []⟩) s₁' s₂ ∧ Run ⟨[], []⟩ (State.prompt ⟨[], []⟩) s₂' s ∧
    Handles s₁ s₁' 1 (clientBuild 1) 1000 ∧ Handles s₂ s₂' 2 (clientBuild 2) 1000 ∧
    s₂.tracker.inFlight? = none ∧ s₂.now = 1000 ∧
    ∃ n v, (n, v) ∈ s.history.ends ∧ v ≤ 1000 ∧ 1500 = max s₁.now v + 1000 := by
  obtain ⟨s₁, s₁', s₂, s₂', s, hf, hp₁, hf₁, hp₂, hf₂, ht₁, ht₂, hn, hnow, hk₁,
      hk₂⟩ :
      ∃ s₁ s₁' s₂ s₂' s : State,
      State.new.follow? ⟨[], []⟩ anyAction [.spawn (.handle (serverBuild 1 false) 1000), .poll 0,
        .claim 1, .turn, .spawn (.handle (clientBuild 1) 1000)] = some s₁ ∧
      s₁.poll 1 = some s₁' ∧
      s₁'.follow? ⟨[], []⟩ (State.prompt ⟨[], []⟩) [.pass 500, .turn, .poll 0, .poll 1, .pass 500,
        .spawn (.handle (clientBuild 2) 1000)] = some s₂ ∧
      s₂.poll 2 = some s₂' ∧
      s₂'.follow? ⟨[], []⟩ (State.prompt ⟨[], []⟩) [.pass 500, .poll 1] = some s ∧
      s₁.tasks[1]? = some ⟨.handle (clientBuild 1) 1000, .fresh, some 1⟩ ∧
      s₂.tasks[2]? = some ⟨.handle (clientBuild 2) 1000, .fresh, some 2⟩ ∧
      s₂.tracker.inFlight? = none ∧ s₂.now = 1000 ∧
      s.history = s₁.history ++ ([(0, .clientWaits 1), (500, .startReturned 1 .ready),
        (500, .ended 1 .succeeded), (500, .taskEnded 0 .handled),
        (1000, .published (.clientBuilt 2)), (1000, .taskEnded 2 .handled),
        (1500, .clientSettled 1)] ++
        [(1500, .published (.clientBuilt 1)), (1500, .taskEnded 1 .handled)] ++ []) ∧
      s.history = s₂.history ++ ([] ++
        [(1000, .published (.clientBuilt 2)), (1000, .taskEnded 2 .handled)] ++
        [(1500, .clientSettled 1), (1500, .published (.clientBuilt 1)),
          (1500, .taskEnded 1 .handled)]) :=
    ⟨_, _, _, _, _, rfl, rfl, rfl, rfl, rfl, rfl, rfl, rfl, rfl, rfl, rfl⟩
  have hs₁ : Reachable ⟨[], []⟩ s₁ := (run_follow? hf).reachable .new
  have h₁ : Handles s₁ s₁' 1 (clientBuild 1) 1000 := ⟨⟨_, ht₁⟩, rfl, rfl, hp₁⟩
  have h₂ : Handles s₂ s₂' 2 (clientBuild 2) 1000 := ⟨⟨_, ht₂⟩, rfl, rfl, hp₂⟩
  have horder := later_build_first_iff hs₁ h₁ (run_follow? hf₁) h₂ (run_follow? hf₂)
    ⟨_, hk₁, _, _, rfl⟩ ⟨_, hk₂, _, _, rfl⟩
  have hahead : 1000 < 1500 := (horder.ahead fun _ _ => id).mpr ⟨hn, by omega⟩
  obtain ⟨n, v, -, hend, hv, heq⟩ := horder.settling (fun _ _ => id) hahead
  exact ⟨s₁, s₁', s₂, s₂', s, hs₁, run_follow? hf₁, run_follow? hf₂, h₁, h₂, hn, hnow, n, v, hend,
    hv, heq⟩

/-- The client build that a task starts to handle, if it has succeeded. -/
def State.handles? (s : State) : Action → Option Nat
  | .poll i =>
    match s.tasks[i]? with
    | some ⟨.handle e _, .fresh, _⟩ => clientBuild? e
    | _ => none
  | _ => none

/-- The client builds that are handled in the course of some actions, in this order. -/
def State.handled (script : Script) (s : State) : List Action → List Nat
  | [] => []
  | a :: as =>
    match step script s a with
    | some s' => (s.handles? a).toList ++ s'.handled script as
    | none => []

/-- Whether a prompt run of a loop can take an action: no task is begun but by the loop. -/
def State.loops (script : Script) (s : State) : Action → Bool
  | .spawn _ => false
  | a => s.prompt script a

/-- A client build that is handled while the one before settles is announced before it. -/
theorem later_build_announced_first : ¬∀ (script : Script) (ms : Nat) (as : List Action)
    (s : State), (State.new.spawn (.receive ms)).follow? script (State.loops script) as = some s →
      ((State.new.spawn (.receive ms)).handled script as).Pairwise (· < ·) →
      s.history.told.Pairwise (· < ·) := by
  intro hall
  obtain ⟨s, hf, hh, ht⟩ : ∃ s,
      (State.new.spawn (.receive 1000)).follow? ⟨[], []⟩ (State.loops ⟨[], []⟩)
        [.send (serverBuild 1 false), .poll 0, .poll 1, .claim 1, .turn, .send (clientBuild 1),
          .poll 0, .poll 2, .pass 500, .turn, .poll 1, .poll 2, .pass 500, .send (clientBuild 2),
          .poll 0, .poll 3, .pass 500, .poll 2] = some s ∧
      (State.new.spawn (.receive 1000)).handled ⟨[], []⟩
        [.send (serverBuild 1 false), .poll 0, .poll 1, .claim 1, .turn, .send (clientBuild 1),
          .poll 0, .poll 2, .pass 500, .turn, .poll 1, .poll 2, .pass 500, .send (clientBuild 2),
          .poll 0, .poll 3, .pass 500, .poll 2] = [1, 2] ∧
      s.history.told = [2, 1] := ⟨_, rfl, rfl, rfl⟩
  have htold := hall _ _ _ s hf (by rw [hh]; decide)
  rw [ht] at htold
  revert htold
  decide

end DevServer.Restart
