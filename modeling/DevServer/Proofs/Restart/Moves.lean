import DevServer.Proofs.Restart.History
import DevServer.Restart.Step

/-!
# Moves

`Shared` is the part of a state that all tasks share: the tracker, the flags, the slot and the line
for it. `Move script c hs c'` lists everything that one step can do to it, with what happens then;
`Moves` chains moves and stamps the happenings with their times. A step of a dev loop is a chain of
moves (`moves_of_step`), so the history of every reachable state is what its moves left behind
(`Reachable.moves`). Invariants of the shared part are proved once, by cases on `Move`.
-/

namespace DevServer.Restart

structure Shared where
  now : Nat
  tracker : Tracker
  shutDown : Bool
  changed : Bool
  slot : Option Nat
  alive : List Nat
  workers : Nat
  startCalls : Nat
  stopCalls : Nat
  unclaimed : List Nat
  line : List Claim

def State.shared (s : State) : Shared where
  now := s.now
  tracker := s.tracker
  shutDown := s.shutDown
  changed := s.changed
  slot := s.slot
  alive := s.alive
  workers := s.workers
  startCalls := s.startCalls
  stopCalls := s.stopCalls
  unclaimed := s.unclaimed
  line := s.line

namespace Shared

/-- The head of the line stops the worker in the slot. -/
def callStop (script : Script) (c : Shared) (owner : Owner) (worker : Nat) : Shared :=
  let stop := script.stop c.stopCalls
  let due := if c.alive.contains worker then c.now + stop.ms else c.now
  { c with
    slot := none
    alive := c.alive.filter (· != worker)
    stopCalls := c.stopCalls + 1
    line := .stops owner worker due stop.fault :: c.line.tail }

/-- The head of the line starts a worker. -/
def callStart (script : Script) (c : Shared) (ticket : Nat) : Shared :=
  let start := script.start c.startCalls
  { c with
    startCalls := c.startCalls + 1
    line := .starts ticket (c.now + start.ms) start.outcome :: c.line.tail }

/-- The head of the line gives up the slot. -/
def leave (c : Shared) : Shared := { c with line := c.line.tail }

def begin (c : Shared) (ticket : Nat) : Shared := { c with tracker := c.tracker.begin ticket }

/-- The head of the line ends a restart and gives up the slot. -/
def conclude (c : Shared) (ticket : Nat) (k : Conclusion) : Shared :=
  { c with tracker := c.tracker.finish ticket k.outcome, line := c.line.tail }

/-- A live worker takes the slot, and no change waits any more. -/
def install (c : Shared) : Shared :=
  { c with
    workers := c.workers + 1
    alive := (c.workers + 1) :: c.alive
    slot := some (c.workers + 1)
    changed := false }

/-- What is told to browsers when a worker takes the slot. -/
def news (c : Shared) : List Happening := if c.changed then [.published .serverUpdate] else []

end Shared

/-- The faults that a call for a worker comes back with. -/
inductive StartOutcome.Fails : StartOutcome → Worker.Fault → Prop where
  | dead : Fails .dead (.exited none)
  | fault (f : Worker.Fault) : Fails (.fault f) f

/-- One move of what is shared, and what happens in it. -/
inductive Move (script : Script) : Shared → List Happening → Shared → Prop where
  | task (c : Shared) {x : Happening} (hx : x.ofTask = true) : Move script c [x] c
  | request (c : Shared) :
    Move script c [.requested c.tracker.ticket c.tracker.queued.isSome]
      { c with
        tracker := c.tracker.request
        unclaimed := if c.tracker.queued.isSome then c.unclaimed
          else c.unclaimed ++ [c.tracker.ticket] }
  | mark (c : Shared) : Move script c [.marked] { c with changed := true }
  | unmark (c : Shared) : Move script c [.unmarked] { c with changed := false }
  | pass (c : Shared) (ms : Nat) : Move script c [] { c with now := c.now + ms }
  /-- A worker dies by itself. -/
  | die (c : Shared) (w : Nat) :
    Move script c [.workerDied w] { c with alive := c.alive.filter (· != w) }
  | claim {c : Shared} {n : Nat} (hn : n ∈ c.unclaimed) :
    Move script c []
      { c with
        unclaimed := c.unclaimed.filter (· != n)
        line := c.line ++ [Claim.enters (.restart n)] }
  | shutDown (c : Shared) (task : Nat) :
    Move script c [.shutdownCalled]
      { c with shutDown := true, line := c.line ++ [Claim.enters (.shutdown task)] }
  /-- The claim of a shutdown that is given up goes. -/
  | giveUp (c : Shared) (task : Nat) :
    Move script c [] { c with line := c.line.filter (·.owner != Owner.shutdown task) }
  | skip {c : Shared} {n : Nat} {rest : List Claim}
    (hl : c.line = .enters (.restart n) :: rest) (hd : c.shutDown = true) :
    Move script c [.began n true, .ended n .skipped] ((c.begin n).conclude n .skipped)
  | stopPrevious {c : Shared} {n w : Nat} {rest : List Claim}
    (hl : c.line = .enters (.restart n) :: rest) (hd : c.shutDown = false) (hw : c.slot = some w) :
    Move script c [.began n false, .stopCalled (.restart n) w]
      ((c.begin n).callStop script (.restart n) w)
  | startFirst {c : Shared} {n : Nat} {rest : List Claim}
    (hl : c.line = .enters (.restart n) :: rest) (hd : c.shutDown = false) (hw : c.slot = none) :
    Move script c [.began n false, .startCalled n] ((c.begin n).callStart script n)
  | startNext {c : Shared} {n w due : Nat} {f : Option Worker.Fault} {rest : List Claim}
    (hl : c.line = .stops (.restart n) w due f :: rest) (ht : due ≤ c.now) :
    Move script c [.stopReturned (.restart n) w f, .startCalled n] (c.callStart script n)
  | stopLast {c : Shared} {task w : Nat} {rest : List Claim}
    (hl : c.line = .enters (.shutdown task) :: rest) (hw : c.slot = some w) :
    Move script c [.stopCalled (.shutdown task) w] (c.callStop script (.shutdown task) w)
  | nothingToStop {c : Shared} {task : Nat} {rest : List Claim}
    (hl : c.line = .enters (.shutdown task) :: rest) (hw : c.slot = none) :
    Move script c [] c.leave
  | stopped {c : Shared} {task w due : Nat} {f : Option Worker.Fault} {rest : List Claim}
    (hl : c.line = .stops (.shutdown task) w due f :: rest) (ht : due ≤ c.now) :
    Move script c [.stopReturned (.shutdown task) w f] c.leave
  | install {c : Shared} {n due : Nat} {rest : List Claim}
    (hl : c.line = .starts n due .ready :: rest) (ht : due ≤ c.now) :
    Move script c (.startReturned n .ready :: c.news ++ [.ended n .succeeded])
      (c.install.conclude n .succeeded)
  | fail {c : Shared} {n due workers : Nat} {o : StartOutcome} {f : Worker.Fault} {rest : List Claim}
    (hl : c.line = .starts n due o :: rest) (ht : due ≤ c.now) (hf : o.Fails f)
    (hw : c.workers ≤ workers) :
    Move script c [.startReturned n o, .ended n (.failed f)]
      ({ c with workers }.conclude n (.failed f))
  | panic {c : Shared} {n due : Nat} {rest : List Claim}
    (hl : c.line = .starts n due .panic :: rest) (ht : due ≤ c.now) :
    Move script c [.startReturned n .panic, .abandoned n]
      { c with tracker := c.tracker.abandon n }.leave

/-- Moves lead from one shared part to another; the history is what happened on the way. -/
inductive Moves (script : Script) (c : Shared) : History → Shared → Prop where
  | refl : Moves script c [] c
  | move {h : History} {c' c'' : Shared} {hs : List Happening} :
    Moves script c h c' → Move script c' hs c'' →
      Moves script c (h ++ hs.map (c'.now, ·)) c''

theorem Moves.single {script : Script} {c c' : Shared} {hs : List Happening}
    (h : Move script c hs c') : Moves script c (hs.map (c.now, ·)) c' := .move .refl h

theorem Moves.trans {script : Script} {c c' c'' : Shared} {h k : History}
    (h1 : Moves script c h c') (h2 : Moves script c' k c'') : Moves script c (h ++ k) c'' := by
  induction h2 with
  | refl => simpa using h1
  | move _ hm ih => rw [← List.append_assoc]; exact ih.move hm

/-- What every move preserves is preserved on the way. -/
theorem Moves.preserves {script : Script} {P : History → Shared → Prop}
    (hP : ∀ {h c hs c'}, P h c → Move script c hs c' → P (h ++ hs.map (c.now, ·)) c')
    {h k : History} {c c' : Shared} (h0 : P h c) (hm : Moves script c k c') : P (h ++ k) c' := by
  induction hm with
  | refl => simpa using h0
  | move _ hm ih => rw [← List.append_assoc]; exact hP ih hm

/-! ## Steps are moves -/

/-- Moves lead from `s` to `s'`, and the history has grown by what happened on the way. -/
def Evolves (script : Script) (s s' : State) : Prop :=
  ∃ h, Moves script s.shared h s'.shared ∧ s'.history = s.history ++ h

section
variable {script : Script} {s s' s'' : State}

theorem Evolves.refl (s : State) : Evolves script s s := ⟨[], .refl, by simp⟩

theorem Evolves.trans (h1 : Evolves script s s') (h2 : Evolves script s' s'') :
    Evolves script s s'' := by
  obtain ⟨h, hm, hh⟩ := h1
  obtain ⟨k, km, hk⟩ := h2
  exact ⟨h ++ k, hm.trans km, by rw [hk, hh, List.append_assoc]⟩

/-- A single move, given by what it does to the shared part and to the history. -/
theorem Evolves.of_move {hs : List Happening} (hm : Move script s.shared hs s'.shared)
    (hh : s'.history = s.history ++ hs.map (s.now, ·)) : Evolves script s s' :=
  ⟨_, .single hm, hh⟩

theorem evolves_setStage (s : State) (task : Nat) (g : Stage) :
    Evolves script s (s.setStage task g) := .refl s

theorem evolves_note {x : Happening} (hx : x.ofTask = true) : Evolves script s (s.note x) :=
  .of_move (.task s.shared hx) rfl

theorem evolves_endTask (s : State) (task : Nat) (r : Result) :
    Evolves script s (s.endTask task r) := .of_move (.task s.shared rfl) rfl

theorem evolves_request (s : State) : Evolves script s s.request :=
  .of_move (.request s.shared) rfl

theorem evolves_mark (s : State) : Evolves script s ({ s with changed := true }.note .marked) :=
  .of_move (.mark s.shared) rfl

theorem evolves_gateClient (s : State) (task : Nat) {ready : State → State}
    (hr : ∀ s, Evolves script s (ready s)) : Evolves script s (s.gateClient task ready) := by
  unfold State.gateClient
  split
  · exact evolves_note rfl
  · exact hr s

theorem evolves_announceClient (s : State) (task : Nat) (e : Build.Event) :
    Evolves script s (s.announceClient task e) :=
  (evolves_note rfl).trans (evolves_endTask _ _ _)

/-- A server build that is handled marks the change, if there is one, and then asks for a restart. -/
theorem evolves_handleFresh (s : State) (task : Nat) (e : Build.Event) :
    Evolves script s (s.handleFresh task e) := by
  unfold State.handleFresh
  split
  · exact (evolves_note rfl).trans (evolves_endTask _ _ _)
  · split
    · have hm : Evolves script s
          (if e.touchedServer then { s with changed := true }.note .marked else s) := by
        split
        · exact evolves_mark s
        · exact .refl s
      exact hm.trans ((evolves_note rfl).trans (evolves_request _))
    · exact evolves_gateClient s task fun s => evolves_announceClient s task e

theorem evolves_startTask (s : State) (task : Nat) (e : Errand) :
    Evolves script s (s.startTask task e) := by
  cases e with
  | restartWorker => exact evolves_request s
  | releaseClient _ => exact evolves_gateClient s task fun s => evolves_endTask s task _
  | handle e _ => exact evolves_handleFresh s task e
  | receive _ => exact .refl s
  | shutdown => exact .of_move (.shutDown s.shared task) rfl

theorem evolves_settleClient (s : State) (task ticket ms : Nat) (o : Outcome) :
    Evolves script s (s.settleClient task ticket ms o) := by
  cases o with
  | succeeded => exact evolves_setStage s task _
  | failed reason => exact (evolves_note rfl).trans (evolves_setStage _ task _)

theorem evolves_restartSettled {task ticket : Nat} {o : Outcome} {e : Errand}
    (h : s.restartSettled task ticket o e = some s') : Evolves script s s' := by
  cases e with
  | restartWorker => cases h; exact evolves_endTask s task _
  | releaseClient _ => cases h; exact evolves_settleClient s task ticket _ o
  | handle e ms =>
    simp only [State.restartSettled] at h
    split at h
    · cases h; exact evolves_settleClient s task ticket ms o
    · cases h
      cases o with
      | succeeded => exact evolves_endTask s task _
      | failed reason => exact (evolves_note rfl).trans (evolves_endTask _ task _)
  | receive _ | shutdown => cases h

theorem evolves_clientSettled {task : Nat} {o : Outcome} {e : Errand}
    (h : s.clientSettled task o e = some s') : Evolves script s s' := by
  cases e with
  | releaseClient _ => cases h; exact evolves_endTask s task _
  | handle e _ => cases h; exact (evolves_note rfl).trans (evolves_announceClient _ task e)
  | restartWorker | receive _ | shutdown => cases h

theorem evolves_receive {task ms : Nat} {isOpen : Bool} {es : List Build.Event}
    (h : s.receive task ms isOpen es = some s') : Evolves script s s' := by
  cases es with
  | nil =>
    simp only [State.receive] at h
    split at h
    · cases h
    · cases h; exact (evolves_note rfl).trans (evolves_endTask _ task _)
  | cons e es => cases h; exact .refl s

theorem poll_fresh {task : Nat} {t : Task} (ht : s.tasks[task]? = some t) (hg : t.stage = .fresh) :
    s.poll task = some (s.startTask task t.errand) := by
  simp [State.poll, ht, hg]

theorem evolves_poll {task : Nat} (h : s.poll task = some s') : Evolves script s s' := by
  unfold State.poll at h
  obtain ⟨t, -, h⟩ := Option.bind_eq_some_iff.mp h
  cases hg : t.stage <;> simp only [hg] at h
  case fresh => cases h; exact evolves_startTask s task t.errand
  case waiting ticket =>
    obtain ⟨o, -, h⟩ := Option.bind_eq_some_iff.mp h
    exact evolves_restartSettled h
  case settling due o =>
    split at h
    · exact evolves_clientSettled h
    · cases h
  case receiving es isOpen =>
    split at h
    · exact evolves_receive h
    · cases h
  all_goals cases h

theorem history_conclude (s : State) (n : Nat) (k : Conclusion) :
    (s.conclude n k).history = s.history ++ [(s.now, .ended n k)] := rfl

theorem history_callStop (s : State) (owner : Owner) (w : Nat) :
    (s.callStop script owner w).history = s.history ++ [(s.now, .stopCalled owner w)] := rfl

theorem history_callStart (s : State) (n : Nat) :
    (s.callStart script n).history = s.history ++ [(s.now, .startCalled n)] := rfl

theorem beginRestart_skip {n : Nat} (hd : s.shutDown = true) :
    s.beginRestart script n =
      ({ s with tracker := s.tracker.begin n }.note (.began n true)).conclude n .skipped := by
  simp only [State.beginRestart, State.note, hd, ↓reduceIte]

theorem beginRestart_stop {n w : Nat} (hd : s.shutDown = false) (hw : s.slot = some w) :
    s.beginRestart script n =
      ({ s with tracker := s.tracker.begin n }.note (.began n false)).callStop script
        (.restart n) w := by
  simp only [State.beginRestart, State.note, hd, hw, Bool.false_eq_true, ↓reduceIte]

theorem beginRestart_start {n : Nat} (hd : s.shutDown = false) (hw : s.slot = none) :
    s.beginRestart script n =
      ({ s with tracker := s.tracker.begin n }.note (.began n false)).callStart script n := by
  simp only [State.beginRestart, State.note, hd, hw, Bool.false_eq_true, ↓reduceIte]

theorem evolves_beginRestart {n : Nat} {rest : List Claim}
    (hl : s.line = .enters (.restart n) :: rest) : Evolves script s (s.beginRestart script n) := by
  rcases Bool.eq_false_or_eq_true s.shutDown with hd | hd
  · rw [beginRestart_skip hd]
    refine .of_move (.skip hl hd) ?_
    rw [history_conclude]; simp [State.note]
  · rcases hw : s.slot with _ | w
    · rw [beginRestart_start hd hw]
      refine .of_move (.startFirst hl hd hw) ?_
      rw [history_callStart]; simp [State.note]
    · rw [beginRestart_stop hd hw]
      refine .of_move (.stopPrevious hl hd hw) ?_
      rw [history_callStop]; simp [State.note]

theorem shared_installWorker (s : State) (n : Nat) :
    (s.installWorker n).shared = s.shared.install.conclude n .succeeded := by
  rcases Bool.eq_false_or_eq_true s.changed with hc | hc <;>
    simp [State.installWorker, State.conclude, State.leave, State.note, State.shared,
      Shared.install, Shared.conclude, hc]

theorem history_installWorker (s : State) (n : Nat) :
    (s.installWorker n).history =
      s.history ++ (s.shared.news ++ [Happening.ended n .succeeded]).map (s.now, ·) := by
  rcases Bool.eq_false_or_eq_true s.changed with hc | hc <;>
    simp [State.installWorker, State.conclude, State.leave, State.note, State.shared,
      Shared.news, hc]

theorem evolves_startReturned {n due : Nat} {o : StartOutcome} {rest : List Claim}
    (hl : s.line = .starts n due o :: rest) (ht : due ≤ s.now) :
    Evolves script s (s.startReturned n o) := by
  cases o with
  | ready =>
    have hm : Move script s.shared (.startReturned n .ready :: s.shared.news ++ [.ended n .succeeded])
        ((s.note (.startReturned n .ready)).installWorker n).shared := by
      rw [shared_installWorker]; exact .install hl ht
    have hn : (s.note (.startReturned n .ready)).shared.news = s.shared.news := rfl
    refine .of_move hm ?_
    rw [State.startReturned, history_installWorker, hn]; simp [State.note]
  | dead =>
    refine .of_move (.fail hl ht .dead (Nat.le_succ _)) ?_
    simp only [State.startReturned, history_conclude]; simp [State.note]
  | fault f =>
    refine .of_move (.fail hl ht (.fault f) (Nat.le_refl _)) ?_
    simp only [State.startReturned, history_conclude]; simp [State.note]
  | panic =>
    refine .of_move (.panic hl ht) ?_
    simp [State.startReturned, State.note, State.leave]

/-- The owner of the slot goes on in one move; a shutdown's task may end with it. -/
theorem evolves_turn (h : s.turn script = some s') : Evolves script s s' := by
  unfold State.turn at h
  split at h
  · cases h
  · next n rest hl => cases h; exact evolves_beginRestart hl
  · next task rest hl =>
    split at h
    · next w hw => cases h; exact .of_move (.stopLast hl hw) rfl
    · next hw =>
      cases h
      have hm : Evolves script s s.leave := .of_move (.nothingToStop hl hw) (by simp [State.leave])
      exact hm.trans (evolves_endTask _ task _)
  · next owner w due f rest hl =>
    split at h
    · next ht =>
      split at h
      · next n =>
        cases h
        refine .of_move (.startNext hl ht) ?_
        rw [history_callStart]; simp [State.note]
      · next task =>
        cases h
        have hm : Evolves script s (s.note (.stopReturned (.shutdown task) w f)).leave :=
          .of_move (.stopped hl ht) rfl
        exact hm.trans (evolves_endTask _ task _)
    · cases h
  · next n due o rest hl =>
    split at h
    · next ht => cases h; exact evolves_startReturned hl ht
    · cases h

/-! ### All actions -/

theorem evolves_close (s : State) : Evolves script s s.close := by
  unfold State.close
  split <;> exact .refl s

theorem evolves_send (s : State) (e : Build.Event) : Evolves script s (s.send e) := by
  unfold State.send
  split
  · exact evolves_setStage s _ _
  · exact .refl s

theorem evolves_spawn (s : State) (e : Errand) : Evolves script s (s.spawn e) := by
  cases e with
  | receive _ => exact evolves_close s
  | restartWorker | releaseClient _ | handle _ _ | shutdown => exact .refl s

theorem evolves_cancel (s : State) (task : Nat) : Evolves script s (s.cancel task) := by
  unfold State.cancel
  split
  · split
    · exact .refl s
    · exact .of_move (.giveUp s.shared task) (by simp [State.setStage])
  · exact .refl s

theorem evolves_killWorker (s : State) : Evolves script s s.killWorker := by
  unfold State.killWorker
  split
  · exact .of_move (.die s.shared s.workers) rfl
  · exact .refl s

/-- **A step is a chain of moves.** -/
theorem evolves_step {a : Action} (h : step script s a = some s') : Evolves script s s' := by
  cases a with
  | request => cases h; exact evolves_request s
  | spawn e => cases h; exact evolves_spawn s e
  | send e => cases h; exact evolves_send s e
  | close => cases h; exact evolves_close s
  | cancel task => cases h; exact evolves_cancel s task
  | mark => cases h; exact evolves_mark s
  | unmark => cases h; exact .of_move (.unmark s.shared) rfl
  | killWorker => cases h; exact evolves_killWorker s
  | pass ms => cases h; exact .of_move (.pass s.shared ms) (by simp)
  | claim n =>
    simp only [step, State.claim] at h
    split at h
    · next hn => cases h; exact .of_move (.claim hn) (by simp)
    · cases h
  | poll task => exact evolves_poll h
  | turn => exact evolves_turn h

end

/-- **The history of a reachable state is what moves left behind.** -/
theorem Reachable.moves {script : Script} {s : State} (h : Reachable script s) :
    Moves script State.new.shared s.history s.shared := by
  induction h with
  | new => exact .refl
  | step _ hs ih =>
    obtain ⟨k, hm, hk⟩ := evolves_step hs
    rw [hk]
    exact ih.trans hm

/-- **What holds at first and is preserved by every move holds in every reachable state.** -/
theorem Reachable.invariant {script : Script} {s : State} (hs : Reachable script s)
    {P : History → Shared → Prop} (h0 : P [] State.new.shared)
    (hP : ∀ {h c hs c'}, P h c → Move script c hs c' → P (h ++ hs.map (c.now, ·)) c') :
    P s.history s.shared := hs.moves.preserves hP h0

end DevServer.Restart
