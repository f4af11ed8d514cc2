import DevServer.Proofs.Restart.Announcement
import DevServer.Proofs.Restart.ClientBuilds

/-!
# What a step does

`Polled` lists what a task does when it goes on, and `Turned` what the owner of the slot does; each
gives the state after it. What happens tells whose step it was (`noted_step`): a turn of the owner
of the slot for what happens at the slot (`Happening.atSlot`), a task's own step for what tasks do
(`Happening.ofTask`). Nobody but the owner of the slot gets on with a claim on it (`line_step`), and
everything in a history happened in some step on the way (`Reachable.happened`).
-/

namespace DevServer.Restart

/-! ## Tasks -/

/-- Whether the task has a client build to announce, or its release to wait for. -/
def Errand.forClient : Errand → Bool
  | .releaseClient _ => true
  | .handle e _ => e.target == .client
  | .restartWorker | .receive _ | .shutdown => false

/-- What a task with an errand and a stage does when it goes on in `s`. -/
inductive Polled (s : State) (task : Nat) : Errand → Stage → State → Prop where
  | request :
    Polled s task .restartWorker .fresh (s.request.setStage task (.waiting s.tracker.ticket))
  | restarted {n : Nat} {o : Outcome} (ho : s.tracker.settled? n = some o) :
    Polled s task .restartWorker (.waiting n) (s.endTask task (.restarted o))
  | shutDown :
    Polled s task .shutdown .fresh
      (({ s with shutDown := true, line := s.line ++ [Claim.enters (.shutdown task)] }.note
        .shutdownCalled).setStage task .claiming)
  /-- A client build is told to wait. -/
  | hold {er : Errand} {ms n : Nat} (hm : er.settleMs? = some ms)
    (hn : s.tracker.inFlight? = some n) :
    Polled s task er .fresh ((s.note (.clientWaits n)).setStage task (.waiting n))
  /-- A client build does not have to wait. -/
  | pass {ms : Nat} (hn : s.tracker.inFlight? = none) :
    Polled s task (.releaseClient ms) .fresh (s.endTask task .immediate)
  | announce {e : Build.Event} {ms : Nat} (hm : (Errand.handle e ms).settleMs? = some ms)
    (hn : s.tracker.inFlight? = none) :
    Polled s task (.handle e ms) .fresh (s.announceClient task e)
  /-- The restart that a client build waits for has come to its end. -/
  | settle {er : Errand} {ms n : Nat} {o : Outcome} (hc : er.forClient = true)
    (ho : s.tracker.settled? n = some o) :
    Polled s task er (.waiting n) (s.settleClient task n ms o)
  /-- A client build has settled. -/
  | released {ms due : Nat} {o : Outcome} (hd : due ≤ s.now) :
    Polled s task (.releaseClient ms) (.settling due o) (s.endTask task (.afterRestart o))
  | announceSettled {e : Build.Event} {ms due : Nat} {o : Outcome} (hd : due ≤ s.now) :
    Polled s task (.handle e ms) (.settling due o)
      ((s.note (.clientSettled e.build)).announceClient task e)
  | buildFailed {e : Build.Event} {ms : Nat} (hs : e.success = false) :
    Polled s task (.handle e ms) .fresh
      ((s.note (.buildFailed e.target e.build)).endTask task .handled)
  | serverBuilt {e : Build.Event} {ms : Nat} {s₁ : State} (hs : e.success = true)
    (ht : e.target = .server)
    (h₁ : s₁ = if e.touchedServer then { s with changed := true }.note .marked else s) :
    Polled s task (.handle e ms) .fresh
      ((s₁.note (.serverBuilt e.build)).request.setStage task (.waiting s₁.tracker.ticket))
  | serverRestarted {e : Build.Event} {ms n : Nat} (ht : e.target = .server)
    (ho : s.tracker.settled? n = some .succeeded) :
    Polled s task (.handle e ms) (.waiting n) (s.endTask task .handled)
  | serverLost {e : Build.Event} {ms n : Nat} {reason : String} (ht : e.target = .server)
    (ho : s.tracker.settled? n = some (.failed reason)) :
    Polled s task (.handle e ms) (.waiting n)
      ((s.note (.serverBuildLost e.build reason)).endTask task .handled)
  /-- A loop takes its next event. -/
  | take {ms : Nat} {e : Build.Event} {es : List Build.Event} {isOpen : Bool} {s₁ : State}
    (h₁ : s₁ = s.setStage task (.receiving es isOpen)) :
    Polled s task (.receive ms) (.receiving (e :: es) isOpen)
      { s₁ with tasks := s₁.tasks ++ [⟨.handle e ms, .fresh, none⟩] }
  | finish {ms : Nat} :
    Polled s task (.receive ms) (.receiving [] false)
      ((s.note .loopFinished).endTask task .finished)
  | idle {ms : Nat} : Polled s task (.receive ms) .fresh s

section
variable {script : Script} {s s' : State} {task : Nat}

theorem stage_setStage {t : Task} {g : Stage} (ht : (s.setStage task g).tasks[task]? = some t) :
    t.stage = g := by
  rw [State.setStage, List.getElem?_modify] at ht
  obtain ⟨t, -, rfl⟩ := Option.map_eq_some_iff.mp ht
  simp

theorem polled_startTask (s : State) (task : Nat) (er : Errand) :
    Polled s task er .fresh (s.startTask task er) := by
  cases er with
  | restartWorker => exact .request
  | releaseClient ms =>
    simp only [State.startTask, State.gateClient]
    split
    · next n hn => exact .hold (show (Errand.releaseClient ms).settleMs? = some ms from rfl) hn
    · next hn => exact .pass hn
  | handle e ms =>
    simp only [State.startTask, State.handleFresh]
    split
    · next hs => exact .buildFailed (by simpa using hs)
    · next hs =>
      have hs : e.success = true := by simpa using hs
      split
      · next ht => exact .serverBuilt hs ht rfl
      · next ht =>
        have hm : (Errand.handle e ms).settleMs? = some ms := by simp [Errand.settleMs?, hs, ht]
        simp only [State.gateClient]
        split
        · next n hn => exact .hold hm hn
        · next hn => exact .announce hm hn
  | receive ms => exact .idle
  | shutdown => exact .shutDown

theorem polled_restartSettled {n : Nat} {o : Outcome} {er : Errand}
    (ho : s.tracker.settled? n = some o) (h : s.restartSettled task n o er = some s') :
    Polled s task er (.waiting n) s' := by
  cases er with
  | restartWorker => cases h; exact .restarted ho
  | releaseClient ms => cases h; exact .settle rfl ho
  | handle e ms =>
    simp only [State.restartSettled] at h
    split at h
    · next ht => cases h; exact .settle (by simp [Errand.forClient, ht]) ho
    · next ht =>
      cases h
      cases o with
      | succeeded => exact .serverRestarted ht ho
      | failed reason => exact .serverLost ht ho
  | receive _ | shutdown => cases h

/-- **What a task does.** -/
theorem polled (h : s.poll task = some s') :
    ∃ t, s.tasks[task]? = some t ∧ Polled s task t.errand t.stage s' := by
  unfold State.poll at h
  obtain ⟨t, ht, h⟩ := Option.bind_eq_some_iff.mp h
  refine ⟨t, ht, ?_⟩
  generalize t.errand = er at h
  cases hg : t.stage <;> simp only [hg] at h
  case fresh => cases h; exact polled_startTask s task er
  case waiting n =>
    obtain ⟨o, ho, h⟩ := Option.bind_eq_some_iff.mp h
    exact polled_restartSettled ho h
  case settling due o =>
    split at h
    · next hd =>
      cases er <;> cases h
      · exact .released hd
      · exact .announceSettled hd
    · cases h
  case receiving es isOpen =>
    cases er <;> try cases h
    rcases es with _ | ⟨e, es⟩
    · rcases isOpen with _ | _ <;> cases h
      exact .finish
    · cases h
      exact .take rfl
  all_goals cases h

end

/-! ## The owner of the slot -/

/-- What the owner of the slot does when it goes on in `s`, with what happens then. -/
inductive Turned (script : Script) (s : State) : List Happening → State → Prop where
  | skip {n : Nat} {rest : List Claim} (hl : s.line = .enters (.restart n) :: rest)
    (hd : s.shutDown = true) :
    Turned script s [.began n true, .ended n .skipped]
      (({ s with tracker := s.tracker.begin n }.note (.began n true)).conclude n .skipped)
  | stopPrevious {n w : Nat} {rest : List Claim} (hl : s.line = .enters (.restart n) :: rest)
    (hd : s.shutDown = false) (hw : s.slot = some w) :
    Turned script s [.began n false, .stopCalled (.restart n) w]
      (({ s with tracker := s.tracker.begin n }.note (.began n false)).callStop script
        (.restart n) w)
  | startFirst {n : Nat} {rest : List Claim} (hl : s.line = .enters (.restart n) :: rest)
    (hd : s.shutDown = false) (hw : s.slot = none) :
    Turned script s [.began n false, .startCalled n]
      (({ s with tracker := s.tracker.begin n }.note (.began n false)).callStart script n)
  | startNext {n w due : Nat} {f : Option Worker.Fault} {rest : List Claim}
    (hl : s.line = .stops (.restart n) w due f :: rest) (ht : due ≤ s.now) :
    Turned script s [.stopReturned (.restart n) w f, .startCalled n]
      ((s.note (.stopReturned (.restart n) w f)).callStart script n)
  | install {n due : Nat} {rest : List Claim} (hl : s.line = .starts n due .ready :: rest)
    (ht : due ≤ s.now) :
    Turned script s (.startReturned n .ready :: s.shared.news ++ [.ended n .succeeded])
      (s.startReturned n .ready)
  | fail {n due : Nat} {o : StartOutcome} {f : Worker.Fault} {rest : List Claim}
    (hl : s.line = .starts n due o :: rest) (ht : due ≤ s.now) (hf : o.Fails f) :
    Turned script s [.startReturned n o, .ended n (.failed f)] (s.startReturned n o)
  | panic {n due : Nat} {rest : List Claim} (hl : s.line = .starts n due .panic :: rest)
    (ht : due ≤ s.now) :
    Turned script s [.startReturned n .panic, .abandoned n] (s.startReturned n .panic)
  | stopLast {task w : Nat} {rest : List Claim} (hl : s.line = .enters (.shutdown task) :: rest)
    (hw : s.slot = some w) :
    Turned script s [.stopCalled (.shutdown task) w] (s.callStop script (.shutdown task) w)
  | nothingToStop {task : Nat} {rest : List Claim}
    (hl : s.line = .enters (.shutdown task) :: rest) (hw : s.slot = none) :
    Turned script s [.taskEnded task .shutDown] (s.leave.endTask task .shutDown)
  | stopped {task w due : Nat} {f : Option Worker.Fault} {rest : List Claim}
    (hl : s.line = .stops (.shutdown task) w due f :: rest) (ht : due ≤ s.now) :
    Turned script s [.stopReturned (.shutdown task) w f, .taskEnded task .shutDown]
      ((s.note (.stopReturned (.shutdown task) w f)).leave.endTask task .shutDown)

section
variable {script : Script} {s s' : State} {hs : List Happening}

theorem turned_startReturned {n due : Nat} {o : StartOutcome} {rest : List Claim}
    (hl : s.line = .starts n due o :: rest) (ht : due ≤ s.now) :
    ∃ hs, Turned script s hs (s.startReturned n o) := by
  cases o with
  | ready => exact ⟨_, .install hl ht⟩
  | dead => exact ⟨_, .fail hl ht .dead⟩
  | fault f => exact ⟨_, .fail hl ht (.fault f)⟩
  | panic => exact ⟨_, .panic hl ht⟩

/-- **What the owner of the slot does.** -/
theorem turned (h : s.turn script = some s') : ∃ hs, Turned script s hs s' := by
  unfold State.turn at h
  split at h
  · cases h
  · next n rest hl =>
    cases h
    rcases Bool.eq_false_or_eq_true s.shutDown with hd | hd
    · rw [beginRestart_skip hd]; exact ⟨_, .skip hl hd⟩
    · rcases hw : s.slot with _ | w
      · rw [beginRestart_start hd hw]; exact ⟨_, .startFirst hl hd hw⟩
      · rw [beginRestart_stop hd hw]; exact ⟨_, .stopPrevious hl hd hw⟩
  · next task rest hl =>
    split at h
    · next w hw => cases h; exact ⟨_, .stopLast hl hw⟩
    · next hw => cases h; exact ⟨_, .nothingToStop hl hw⟩
  · next owner w due f rest hl =>
    split at h
    · next ht =>
      cases owner <;> cases h
      · exact ⟨_, .startNext hl ht⟩
      · exact ⟨_, .stopped hl ht⟩
    · cases h
  · next n due o rest hl =>
    split at h
    · next ht => cases h; exact turned_startReturned hl ht
    · cases h

theorem Turned.history (h : Turned script s hs s') :
    s'.history = s.history ++ hs.map (s.now, ·) := by
  cases h with
  | skip | stopPrevious | startFirst | startNext | panic | stopped => exact List.append_assoc ..
  | fail _ _ hf => cases hf <;> exact List.append_assoc ..
  | install =>
    rw [State.startReturned, history_installWorker]
    exact List.append_assoc ..
  | stopLast | nothingToStop => rfl

/-- When the head of the line can go on. -/
def Claim.due : Claim → Nat
  | enters _ => 0
  | stops _ _ due _ | starts _ due _ => due

theorem turn_ne_none {x : Claim} {rest : List Claim} (hl : s.line = x :: rest)
    (hd : x.due ≤ s.now) : s.turn script ≠ none := by
  unfold State.turn
  rw [hl]
  cases x with
  | enters owner =>
    cases owner with
    | restart n => nofun
    | shutdown task => cases s.slot <;> nofun
  | stops owner w due f =>
    simp only [show due ≤ s.now from hd, ↓reduceIte]
    cases owner <;> nofun
  | starts n due o =>
    simp only [show due ≤ s.now from hd, ↓reduceIte]
    nofun

theorem tail_eq {x : Claim} {rest : List Claim} (hl : s.line = x :: rest) : s.line.tail = rest := by
  rw [hl]; rfl

theorem line_callStop (script : Script) {x : Claim} {rest : List Claim} (hl : s.line = x :: rest)
    (owner : Owner) (w : Nat) :
    ∃ due f, (s.callStop script owner w).line = .stops owner w due f :: rest :=
  ⟨_, _, congrArg _ (tail_eq hl)⟩

theorem line_callStart (script : Script) {x : Claim} {rest : List Claim} (hl : s.line = x :: rest)
    (n : Nat) :
    ∃ due o, (s.callStart script n).line = .starts n due o :: rest :=
  ⟨_, _, congrArg _ (tail_eq hl)⟩

theorem line_startReturned (s : State) (n : Nat) (o : StartOutcome) :
    (s.startReturned n o).line = s.line.tail := by
  cases o with
  | ready => exact congrArg Shared.line (shared_installWorker _ n)
  | dead | fault | panic => rfl

/-- The head of the line comes nearer to its end, or leaves; a restart leaves when it ends. -/
theorem Turned.line (h : Turned script s hs s') : ∃ x rest, s.line = x :: rest ∧
    (s'.line = rest ∧ (∀ n, x.owner = .restart n → ∃ y ∈ hs, y.closed? = some n) ∨
      ∃ y : Claim, y.owner = x.owner ∧ y.work < x.work ∧ s'.line = y :: rest) := by
  cases h with
  | skip hl | panic hl =>
    refine ⟨_, _, hl, .inl ⟨tail_eq hl, ?_⟩⟩
    rintro n ⟨⟩
    exact ⟨_, List.mem_cons_of_mem _ (List.mem_cons_self ..), rfl⟩
  | @install n due rest hl =>
    refine ⟨_, _, hl, .inl ⟨(line_startReturned ..).trans (tail_eq hl), ?_⟩⟩
    rintro m ⟨⟩
    exact ⟨.ended n .succeeded, by simp, rfl⟩
  | fail hl =>
    refine ⟨_, _, hl, .inl ⟨(line_startReturned ..).trans (tail_eq hl), ?_⟩⟩
    rintro n ⟨⟩
    exact ⟨_, List.mem_cons_of_mem _ (List.mem_cons_self ..), rfl⟩
  | nothingToStop hl | stopped hl => exact ⟨_, _, hl, .inl ⟨tail_eq hl, nofun⟩⟩
  | @stopPrevious n w rest hl =>
    obtain ⟨due, f, h⟩ := line_callStop script
      (s := { s with tracker := s.tracker.begin n }.note (.began n false)) hl (.restart n) w
    exact ⟨_, _, hl, .inr ⟨.stops (.restart n) w due f, rfl, by simp [Claim.work], h⟩⟩
  | @startFirst n rest hl =>
    obtain ⟨due, o, h⟩ := line_callStart script
      (s := { s with tracker := s.tracker.begin n }.note (.began n false)) hl n
    exact ⟨_, _, hl, .inr ⟨.starts n due o, rfl, by simp [Claim.work], h⟩⟩
  | @startNext n w _ f rest hl =>
    obtain ⟨due, o, h⟩ := line_callStart script (s := s.note (.stopReturned (.restart n) w f)) hl n
    exact ⟨_, _, hl, .inr ⟨.starts n due o, rfl, by simp [Claim.work], h⟩⟩
  | @stopLast task w rest hl =>
    obtain ⟨due, f, h⟩ := line_callStop script hl (.shutdown task) w
    exact ⟨_, _, hl, .inr ⟨.stops (.shutdown task) w due f, rfl, by simp [Claim.work], h⟩⟩

end

/-! ## Who does what -/

/-- What only the owner of the slot does. -/
def Happening.atSlot : Happening → Bool
  | began _ _ | stopCalled _ _ | stopReturned _ _ _ | startCalled _ | startReturned _ _ | ended _ _
  | abandoned _ | published .serverUpdate | taskEnded _ .shutDown => true
  | requested _ _ | marked | unmarked | published (.clientBuilt _) | buildFailed _ _ | serverBuilt _
  | serverBuildLost _ _ | clientWaits _ | clientWaitFailed _ _ | clientSettled _ | loopFinished
  | shutdownCalled | workerDied _ | taskEnded _ (.restarted _) | taskEnded _ .immediate
  | taskEnded _ (.afterRestart _) | taskEnded _ .handled | taskEnded _ .finished => false

section
variable {script : Script} {s s' : State} {task : Nat} {er : Errand} {g : Stage}

/-- A task announces its client build: it does not have to wait, or it has settled. -/
inductive Announced (s : State) (task : Nat) : Errand → Stage → Nat → List Happening → Prop where
  | atOnce {e : Build.Event} {ms : Nat} (hm : (Errand.handle e ms).settleMs? = some ms)
    (hn : s.tracker.inFlight? = none) :
    Announced s task (.handle e ms) .fresh e.build
      [.published (.clientBuilt e.build), .taskEnded task .handled]
  | settled {e : Build.Event} {ms due : Nat} {o : Outcome} (hd : due ≤ s.now) :
    Announced s task (.handle e ms) (.settling due o) e.build
      [.clientSettled e.build, .published (.clientBuilt e.build), .taskEnded task .handled]

/-- What a task does happens elsewhere than at the slot, and it tells browsers of its own build. -/
theorem Polled.noted (h : Polled s task er g s') : ∃ hs : List Happening,
    s'.history = s.history ++ hs.map (s.now, ·) ∧ (∀ x ∈ hs, x.atSlot = false) ∧
      ∀ b, .published (.clientBuilt b) ∈ hs → Announced s task er g b hs := by
  cases h with
  | request | restarted | shutDown | hold | pass | released | serverRestarted =>
    exact ⟨[_], rfl, by simp [Happening.atSlot], by simp⟩
  | @announce e ms hm hn =>
    refine ⟨[.published (.clientBuilt e.build), .taskEnded task .handled], ?_,
      by simp [Happening.atSlot], fun b hb => ?_⟩
    · exact List.append_assoc ..
    · obtain rfl : b = e.build := by simpa using hb
      exact .atOnce hm hn
  | @settle _ _ n o =>
    cases o with
    | succeeded => exact ⟨[], by simp [State.settleClient, State.setStage], nofun, nofun⟩
    | failed reason =>
      exact ⟨[.clientWaitFailed n reason], rfl, by simp [Happening.atSlot], by simp⟩
  | @announceSettled e _ _ _ hd =>
    refine ⟨[.clientSettled e.build, .published (.clientBuilt e.build), .taskEnded task .handled],
      ?_, by simp [Happening.atSlot], fun b hb => ?_⟩
    · simp [State.announceClient, State.endTask, State.note, State.setStage]
    · obtain rfl : b = e.build := by simpa using hb
      exact .settled hd
  | @buildFailed e =>
    refine ⟨[.buildFailed e.target e.build, .taskEnded task .handled], ?_,
      by simp [Happening.atSlot], by simp⟩
    exact List.append_assoc ..
  | @serverBuilt e ms s₁ _ _ h₁ =>
    obtain ⟨m, hm, hn, hx⟩ : ∃ m : List Happening,
        s₁.history = s.history ++ m.map (s.now, ·) ∧ s₁.now = s.now ∧ ∀ x ∈ m, x = .marked := by
      rw [h₁]
      split
      · exact ⟨[.marked], rfl, rfl, by simp⟩
      · exact ⟨[], by simp, rfl, nofun⟩
    refine ⟨m ++ [.serverBuilt e.build, .requested s₁.tracker.ticket s₁.tracker.queued.isSome],
      ?_, fun x hm => ?_, fun b hb => ?_⟩
    · simp [State.request, State.setStage, State.note, hm, hn]
    · rcases List.mem_append.mp hm with hm | hm
      · rw [hx x hm]; rfl
      · rcases List.mem_cons.mp hm with rfl | hm
        · rfl
        · rw [List.mem_singleton.mp hm]; rfl
    · rcases List.mem_append.mp hb with hb | hb
      · cases hx _ hb
      · simp at hb
  | @serverLost e _ n reason =>
    refine ⟨[.serverBuildLost e.build reason, .taskEnded task .handled], ?_,
      by simp [Happening.atSlot], by simp⟩
    exact List.append_assoc ..
  | take h₁ => exact ⟨[], by simp [h₁, State.setStage], nofun, nofun⟩
  | finish =>
    refine ⟨[.loopFinished, .taskEnded task .finished], ?_, by simp [Happening.atSlot], by simp⟩
    exact List.append_assoc ..
  | idle => exact ⟨[], by simp, nofun, nofun⟩

/-- A task leaves the line as it is, or gets into it to shut the coordinator down. -/
theorem Polled.line (h : Polled s task er g s') :
    s'.line = s.line ∨ s'.line = s.line ++ [.enters (.shutdown task)] ∧ s'.shutDown = true := by
  cases h with
  | shutDown => exact .inr ⟨rfl, rfl⟩
  | @settle _ _ n o => cases o <;> exact .inl rfl
  | serverBuilt _ _ h₁ => rw [h₁]; split <;> exact .inl rfl
  | take h₁ => rw [h₁]; exact .inl rfl
  | _ => exact .inl rfl

theorem Shared.eq_of_mem_news {c : Shared} {x : Happening} (h : x ∈ c.news) :
    x = .published .serverUpdate := by
  unfold Shared.news at h
  split at h
  · exact List.mem_singleton.mp h
  · cases h

/-- What the owner of the slot does happens at the slot. -/
theorem Turned.atSlot {hs : List Happening} (h : Turned script s hs s') :
    ∀ x ∈ hs, x.atSlot = true := by
  cases h with
  | install =>
    intro x hx
    rcases List.mem_append.mp hx with hx | hx
    · rcases List.mem_cons.mp hx with rfl | hx
      · rfl
      · rw [Shared.eq_of_mem_news hx]; rfl
    · rw [List.mem_singleton.mp hx]; rfl
  | _ => simp [Happening.atSlot]

theorem history_close (s : State) : s.close.history = s.history := by
  unfold State.close
  split <;> rfl

theorem history_send (s : State) (e : Build.Event) : (s.send e).history = s.history := by
  unfold State.send
  split <;> rfl

theorem history_spawn (s : State) (e : Errand) : (s.spawn e).history = s.history := by
  cases e with
  | receive ms => exact history_close s
  | restartWorker | releaseClient | handle | shutdown => rfl

theorem history_cancel (s : State) (i : Nat) : (s.cancel i).history = s.history := by
  unfold State.cancel
  split
  · split <;> rfl
  · rfl

theorem history_killWorker (s : State) :
    s.killWorker.history = (s.note (.workerDied s.workers)).history ∨
      s.killWorker.history = s.history := by
  unfold State.killWorker
  split
  · exact .inl rfl
  · exact .inr rfl

/-- Whose step it is that leads from `s` to `s'`, and what happens in it. -/
inductive Noted (script : Script) (s s' : State) : Action → List Happening → Prop where
  | turn {hs : List Happening} (ht : Turned script s hs s') : Noted script s s' .turn hs
  | poll {i : Nat} {t : Task} {hs : List Happening} (ht : s.tasks[i]? = some t)
    (hx : ∀ x ∈ hs, x.atSlot = false)
    (htold : ∀ b, .published (.clientBuilt b) ∈ hs → Announced s i t.errand t.stage b hs) :
    Noted script s s' (.poll i) hs
  /-- Somebody acts from outside, or a restart gets into the line. -/
  | other {a : Action} {hs : List Happening}
    (hx : ∀ x ∈ hs, x.atSlot = false ∧ x.ofTask = false) : Noted script s s' a hs

/-- **What happens tells whose step it was.** -/
theorem noted_step {a : Action} (h : step script s a = some s') : ∃ hs : List Happening,
    s'.history = s.history ++ hs.map (s.now, ·) ∧ Noted script s s' a hs := by
  have hsingle {x : Happening} (hh : s'.history = (s.note x).history)
      (hx : x.atSlot = false ∧ x.ofTask = false) : ∃ hs : List Happening,
        s'.history = s.history ++ hs.map (s.now, ·) ∧ Noted script s s' a hs :=
    ⟨[x], hh, .other (by simpa using hx)⟩
  have hnone (hh : s'.history = s.history) : ∃ hs : List Happening,
      s'.history = s.history ++ hs.map (s.now, ·) ∧ Noted script s s' a hs :=
    ⟨[], by simpa using hh, .other nofun⟩
  cases a with
  | request | mark | unmark => cases h; exact hsingle rfl ⟨rfl, rfl⟩
  | spawn e => cases h; exact hnone (history_spawn s e)
  | send e => cases h; exact hnone (history_send s e)
  | close => cases h; exact hnone (history_close s)
  | cancel i => cases h; exact hnone (history_cancel s i)
  | killWorker =>
    cases h
    rcases history_killWorker s with hk | hk
    · exact hsingle hk ⟨rfl, rfl⟩
    · exact hnone hk
  | pass ms => cases h; exact hnone rfl
  | claim n =>
    simp only [step, State.claim] at h
    split at h
    · cases h; exact hnone rfl
    · cases h
  | poll i =>
    obtain ⟨t, ht, hp⟩ := polled h
    obtain ⟨hs, hh, hx, htold⟩ := hp.noted
    exact ⟨hs, hh, .poll ht hx htold⟩
  | turn =>
    obtain ⟨hs, ht⟩ := turned h
    exact ⟨hs, ht.history, .turn ht⟩

/-- What happens at the slot happens when its owner goes on. -/
theorem turned_of_atSlot {a : Action} {k : History} (h : step script s a = some s')
    (hk : s'.history = s.history ++ k) {u : Nat} {x : Happening} (hx : (u, x) ∈ k)
    (hslot : x.atSlot = true) :
    a = .turn ∧ ∃ hs, Turned script s hs s' ∧ k = hs.map (s.now, ·) ∧ x ∈ hs := by
  obtain ⟨hs, hh, hn⟩ := noted_step h
  obtain rfl : k = hs.map (s.now, ·) := List.append_cancel_left (hk.symm.trans hh)
  have hx := (History.mem_stamp.mp hx).2
  cases hn with
  | turn ht => exact ⟨rfl, hs, ht, rfl, hx⟩
  | poll ht hno => rw [hno x hx] at hslot; cases hslot
  | other hno => rw [(hno x hx).1] at hslot; cases hslot

theorem line_close (s : State) : s.close.line = s.line := by
  unfold State.close
  split <;> rfl

/-- Only the owner of the slot gets on with a claim: others get into the line, or give up theirs for
a shutdown. -/
theorem line_step {a : Action} (h : step script s a = some s') (ha : a ≠ .turn) :
    s'.line = s.line ∨
      (∃ owner, s'.line = s.line ++ [.enters owner] ∧
        ∀ task, owner = .shutdown task → s'.shutDown = true) ∨
      ∃ task, s'.line = s.line.filter (·.owner != Owner.shutdown task) := by
  cases a with
  | request | mark | unmark | pass => cases h; exact .inl rfl
  | spawn e =>
    cases h
    cases e with
    | receive ms => exact .inl (line_close s)
    | restartWorker | releaseClient | handle | shutdown => exact .inl rfl
  | send e =>
    cases h
    unfold State.send
    split <;> exact .inl rfl
  | close => cases h; exact .inl (line_close s)
  | cancel i =>
    cases h
    unfold State.cancel
    split
    · split
      · exact .inl rfl
      · exact .inr (.inr ⟨i, rfl⟩)
    · exact .inl rfl
  | killWorker =>
    cases h
    unfold State.killWorker
    split <;> exact .inl rfl
  | claim n =>
    simp only [step, State.claim] at h
    split at h
    · cases h; exact .inr (.inl ⟨_, rfl, fun _ ho => by cases ho⟩)
    · cases h
  | poll i =>
    obtain ⟨t, -, hp⟩ := polled h
    rcases hp.line with hl | ⟨hl, hd⟩
    · exact .inl hl
    · exact .inr (.inl ⟨_, hl, fun _ _ => hd⟩)
  | turn => exact absurd rfl ha

/-- **Where a happening comes from.** Everything in the history of a state happened in some step on
the way to it. -/
theorem Reachable.happened (hs : Reachable script s) {past later : History} {u : Nat}
    {x : Happening} (hh : s.history = past ++ (u, x) :: later) :
    ∃ s₀ a s₁ k l, Reachable script s₀ ∧ Restart.step script s₀ a = some s₁ ∧
      Run script anyAction s₁ s ∧ past = s₀.history ++ k ∧ s₁.history = past ++ (u, x) :: l := by
  induction hs generalizing later with
  | new => exact absurd hh.symm (by simp [State.new])
  | @step s s' a hs h ih =>
    obtain ⟨m, -, hm⟩ := evolves_step h
    have hnow (k : History) (hp : past = s.history ++ k) : ∃ s₀ a s₁ k l, Reachable script s₀ ∧
        Restart.step script s₀ a = some s₁ ∧ Run script anyAction s₁ s' ∧ past = s₀.history ++ k ∧
        s₁.history = past ++ (u, x) :: l :=
      ⟨s, a, s', k, later, hs, h, .refl, hp, hh⟩
    rcases List.append_eq_append_iff.mp (hm.symm.trans hh) with ⟨k, hp, -⟩ | ⟨k, hk, hl⟩
    · exact hnow k hp
    · rcases k with _ | ⟨y, k⟩
      · exact hnow [] (by simpa using hk.symm)
      · obtain ⟨rfl, -⟩ := List.cons.inj hl
        obtain ⟨s₀, b, s₁, k, l, hr, hb, hrun, hp, hl⟩ := ih hk
        exact ⟨s₀, b, s₁, k, l, hr, hb, hrun.next rfl h, hp, hl⟩

end

end DevServer.Restart
