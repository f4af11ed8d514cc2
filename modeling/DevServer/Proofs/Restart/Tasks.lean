import DevServer.Proofs.Restart.Run

/-!
# Whose step it is

`Touches i s s'` says that no task but `i` changes on the way from `s` to `s'`. Every step but the
passing of time touches one task at most (`touches_step`): the one that is polled or cancelled, the
one whose shutdown comes to its end, or the one that a channel belongs to. So whoever waits is left
alone until it goes on by itself (`spares_step`).
-/

namespace DevServer.Restart

/-- Whether a task ends. -/
def Happening.isTaskEnd : Happening → Bool
  | taskEnded _ _ => true
  | _ => false

/-- The clock stands still, and no task but `i` changes or ends. Every task keeps its errand, and
whoever has got a claim on the slot has shut the coordinator down. -/
structure Touches (i : Nat) (s s' : State) : Prop where
  now : s'.now = s.now
  task : ∀ j t, s.tasks[j]? = some t →
    ∃ t', s'.tasks[j]? = some t' ∧ t'.errand = t.errand ∧ (j ≠ i → t' = t)
  ended : ∃ k, s'.history = s.history ++ k ∧ ∀ u j r, (u, .taskEnded j r) ∈ k → j = i
  line : ∀ x ∈ s'.line, ∀ j, x.owner = .shutdown j →
    (∃ y ∈ s.line, y.owner = .shutdown j) ∨ ∃ t, s'.tasks[j]? = some t ∧ t.errand = .shutdown

section
variable {script : Script} {s s' s'' : State} {i : Nat}

theorem Touches.refl (s : State) : Touches i s s where
  now := rfl
  task := fun _ t ht => ⟨t, ht, rfl, fun _ => rfl⟩
  ended := ⟨[], by simp, nofun⟩
  line := fun x hx _ hj => .inl ⟨x, hx, hj⟩

theorem Touches.trans (h1 : Touches i s s') (h2 : Touches i s' s'') : Touches i s s'' where
  now := h2.now.trans h1.now
  task := fun j t ht => by
    obtain ⟨t', ht', he', hk'⟩ := h1.task j t ht
    obtain ⟨t'', ht'', he'', hk''⟩ := h2.task j t' ht'
    exact ⟨t'', ht'', he''.trans he', fun hj => (hk'' hj).trans (hk' hj)⟩
  ended := by
    obtain ⟨k, hk, hke⟩ := h1.ended
    obtain ⟨l, hl, hle⟩ := h2.ended
    refine ⟨k ++ l, by rw [hl, hk, List.append_assoc], fun u j r hm => ?_⟩
    exact (List.mem_append.mp hm).elim (hke u j r) (hle u j r)
  line := fun x hx j hj => by
    rcases h2.line x hx j hj with ⟨y, hy, hyj⟩ | h
    · rcases h1.line y hy j hyj with h | ⟨t, ht, he⟩
      · exact .inl h
      · obtain ⟨t', ht', he', -⟩ := h2.task j t ht
        exact .inr ⟨t', ht', he'.trans he⟩
    · exact .inr h

/-- Nothing that belongs to a task changes. -/
theorem Touches.of_same (hn : s'.now = s.now) (ht : s'.tasks = s.tasks)
    (hh : ∃ k, s'.history = s.history ++ k ∧ ∀ u j r, (u, .taskEnded j r) ∉ k)
    (hl : ∀ x ∈ s'.line, ∀ j, x.owner = .shutdown j → ∃ y ∈ s.line, y.owner = .shutdown j) :
    Touches i s s' where
  now := hn
  task := fun j t h => ⟨t, ht ▸ h, rfl, fun _ => rfl⟩
  ended := by
    obtain ⟨k, hk, hke⟩ := hh
    exact ⟨k, hk, fun u j r hm => absurd hm (hke u j r)⟩
  line := fun x hx j hj => .inl (hl x hx j hj)

theorem touches_note {x : Happening} (hx : x.isTaskEnd = false) : Touches i s (s.note x) := by
  refine .of_same rfl rfl ⟨_, rfl, fun u j r hm => ?_⟩ fun y hy _ hj => ⟨y, hy, hj⟩
  cases List.mem_singleton.mp hm
  cases hx

theorem touches_setStage (g : Stage) : Touches i s (s.setStage i g) where
  now := rfl
  task := fun j t ht => by
    by_cases hj : j = i
    · subst hj
      exact ⟨{ t with stage := g }, by simp [State.setStage, ht], rfl, fun h => absurd rfl h⟩
    · have hji : i ≠ j := fun h => hj h.symm
      exact ⟨t, by simp [State.setStage, hji, ht], rfl, fun _ => rfl⟩
  ended := ⟨[], by simp [State.setStage], nofun⟩
  line := fun x hx _ hj => .inl ⟨x, hx, hj⟩

theorem touches_endTask (r : Result) : Touches i s (s.endTask i r) where
  now := rfl
  task := (touches_setStage (.ended r)).task
  ended := ⟨_, rfl, fun u j r' hm => by cases List.mem_singleton.mp hm; rfl⟩
  line := fun x hx _ hj => .inl ⟨x, hx, hj⟩

theorem touches_request : Touches i s s.request :=
  .of_same rfl rfl ⟨_, rfl, by simp⟩ fun x hx _ hj => ⟨x, hx, hj⟩

theorem touches_mark : Touches i s ({ s with changed := true }.note .marked) :=
  .of_same rfl rfl ⟨_, rfl, by simp⟩ fun x hx _ hj => ⟨x, hx, hj⟩

theorem touches_gateClient {ready : State → State} (hr : ∀ s, Touches i s (ready s)) :
    Touches i s (s.gateClient i ready) := by
  unfold State.gateClient
  split
  · exact (touches_note rfl).trans (touches_setStage _)
  · exact hr s

theorem touches_announceClient (e : Build.Event) : Touches i s (s.announceClient i e) :=
  (touches_note rfl).trans (touches_endTask _)

theorem touches_handleFresh (e : Build.Event) : Touches i s (s.handleFresh i e) := by
  unfold State.handleFresh
  split
  · exact (touches_note rfl).trans (touches_endTask _)
  · split
    · have hm : Touches i s
          (if e.touchedServer then { s with changed := true }.note .marked else s) := by
        split
        · exact touches_mark
        · exact .refl s
      exact hm.trans ((touches_note rfl).trans (touches_request.trans (touches_setStage _)))
    · exact touches_gateClient fun _ => touches_announceClient e

theorem touches_startTask {t : Task} (ht : s.tasks[i]? = some t) :
    Touches i s (s.startTask i t.errand) := by
  cases he : t.errand with
  | restartWorker => exact touches_request.trans (touches_setStage _)
  | releaseClient _ => exact touches_gateClient fun _ => touches_endTask _
  | handle e _ => exact touches_handleFresh e
  | receive _ => exact .refl s
  | shutdown =>
    refine ⟨rfl, (touches_setStage .claiming).task, ⟨_, rfl, by simp⟩, fun x hx j hj => ?_⟩
    rcases List.mem_append.mp hx with hx | hx
    · exact .inl ⟨x, hx, hj⟩
    · cases List.mem_singleton.mp hx
      cases hj
      refine .inr ⟨{ t with stage := .claiming }, ?_, he⟩
      simp [State.startTask, State.note, State.setStage, ht]

theorem touches_settleClient (n ms : Nat) (o : Outcome) : Touches i s (s.settleClient i n ms o) := by
  cases o with
  | succeeded => exact touches_setStage _
  | failed reason => exact (touches_note rfl).trans (touches_setStage _)

theorem touches_restartSettled {n : Nat} {o : Outcome} {e : Errand}
    (h : s.restartSettled i n o e = some s') : Touches i s s' := by
  cases e with
  | restartWorker => cases h; exact touches_endTask _
  | releaseClient _ => cases h; exact touches_settleClient n _ o
  | handle e ms =>
    simp only [State.restartSettled] at h
    split at h
    · cases h; exact touches_settleClient n ms o
    · cases h
      cases o with
      | succeeded => exact touches_endTask _
      | failed reason => exact (touches_note rfl).trans (touches_endTask _)
  | receive _ | shutdown => cases h

theorem touches_clientSettled {o : Outcome} {e : Errand}
    (h : s.clientSettled i o e = some s') : Touches i s s' := by
  cases e with
  | releaseClient _ => cases h; exact touches_endTask _
  | handle e _ => cases h; exact (touches_note rfl).trans (touches_announceClient e)
  | restartWorker | receive _ | shutdown => cases h

/-- A task joins the ones there are. -/
theorem touches_append (t : Task) (inbox : Option Nat) :
    Touches i s { s with tasks := s.tasks ++ [t], inbox } where
  now := rfl
  task := fun j u hu => by
    obtain ⟨hj, -⟩ := List.getElem?_eq_some_iff.mp hu
    exact ⟨u, by rw [List.getElem?_append_left hj, hu], rfl, fun _ => rfl⟩
  ended := ⟨[], by simp, nofun⟩
  line := fun x hx _ hj => .inl ⟨x, hx, hj⟩

theorem touches_receive {ms : Nat} {isOpen : Bool} {es : List Build.Event}
    (h : s.receive i ms isOpen es = some s') : Touches i s s' := by
  cases es with
  | nil =>
    simp only [State.receive] at h
    split at h
    · cases h
    · cases h; exact (touches_note rfl).trans (touches_endTask _)
  | cons e es =>
    cases h
    exact (touches_setStage _).trans (touches_append _ s.inbox)

theorem touches_poll (h : s.poll i = some s') : Touches i s s' := by
  unfold State.poll at h
  obtain ⟨t, ht, h⟩ := Option.bind_eq_some_iff.mp h
  cases hg : t.stage <;> simp only [hg] at h
  case fresh => cases h; exact touches_startTask ht
  case waiting ticket =>
    obtain ⟨o, -, h⟩ := Option.bind_eq_some_iff.mp h
    exact touches_restartSettled h
  case settling due o =>
    split at h
    · exact touches_clientSettled h
    · cases h
  case receiving es isOpen =>
    split at h
    · exact touches_receive h
    · cases h
  all_goals cases h

/-! ## The owner of the slot -/

theorem touches_callStart (ticket : Nat) : Touches i s (s.callStart script ticket) := by
  refine .of_same rfl rfl ⟨_, history_callStart s ticket, by simp⟩ fun y hy j hj => ?_
  rcases List.mem_cons.mp hy with rfl | hy
  · cases hj
  · exact ⟨y, List.mem_of_mem_tail hy, hj⟩

theorem touches_callStop {owner : Owner} {w : Nat} {x : Claim} {rest : List Claim}
    (hl : s.line = x :: rest) (hx : x.owner = owner) :
    Touches i s (s.callStop script owner w) := by
  refine .of_same rfl rfl ⟨_, history_callStop s owner w, by simp⟩ fun y hy j hj => ?_
  rcases List.mem_cons.mp hy with rfl | hy
  · exact ⟨x, by simp [hl], hx.trans hj⟩
  · exact ⟨y, List.mem_of_mem_tail hy, hj⟩

theorem touches_leave : Touches i s s.leave :=
  .of_same rfl rfl ⟨[], by simp [State.leave], by simp⟩ fun y hy _ hj =>
    ⟨y, List.mem_of_mem_tail hy, hj⟩

theorem touches_conclude (n : Nat) (k : Conclusion) : Touches i s (s.conclude n k) :=
  .of_same rfl rfl ⟨_, history_conclude s n k, by simp⟩ fun y hy _ hj =>
    ⟨y, List.mem_of_mem_tail hy, hj⟩

theorem touches_beginRestart {n : Nat} {rest : List Claim}
    (hl : s.line = .enters (.restart n) :: rest) : Touches i s (s.beginRestart script n) := by
  have hb (skipped : Bool) :
      Touches i s ({ s with tracker := s.tracker.begin n }.note (.began n skipped)) :=
    .of_same rfl rfl ⟨_, rfl, by simp⟩ fun x hx _ hj => ⟨x, hx, hj⟩
  rcases Bool.eq_false_or_eq_true s.shutDown with hd | hd
  · rw [beginRestart_skip hd]
    exact (hb true).trans (touches_conclude n _)
  · rcases hw : s.slot with _ | w
    · rw [beginRestart_start hd hw]
      exact (hb false).trans (touches_callStart n)
    · rw [beginRestart_stop hd hw]
      exact (hb false).trans (touches_callStop hl rfl)

theorem touches_installWorker (n : Nat) : Touches i s (s.installWorker n) := by
  unfold State.installWorker
  have hw : Touches i s { s with
      workers := s.workers + 1, alive := (s.workers + 1) :: s.alive, slot := some (s.workers + 1) } :=
    .of_same rfl rfl ⟨[], by simp, by simp⟩ fun x hx _ hj => ⟨x, hx, hj⟩
  refine hw.trans (.trans ?_ (touches_conclude n _))
  split
  · exact .of_same rfl rfl ⟨_, rfl, by simp⟩ fun x hx _ hj => ⟨x, hx, hj⟩
  · exact .refl _

theorem touches_startReturned (n : Nat) (o : StartOutcome) : Touches i s (s.startReturned n o) := by
  have hn : Touches i s (s.note (.startReturned n o)) := touches_note rfl
  refine hn.trans ?_
  cases o with
  | ready => exact touches_installWorker n
  | dead =>
    have hw (s : State) : Touches i s { s with workers := s.workers + 1 } :=
      .of_same rfl rfl ⟨[], by simp, by simp⟩ fun x hx _ hj => ⟨x, hx, hj⟩
    exact (hw _).trans (touches_conclude n _)
  | fault f => exact touches_conclude n _
  | panic =>
    exact .of_same rfl rfl ⟨_, rfl, by simp⟩ fun y hy _ hj => ⟨y, List.mem_of_mem_tail hy, hj⟩

/-- The owner of the slot goes on; a shutdown's task may end with it. -/
theorem touches_turn (h : s.turn script = some s') :
    (∀ i, Touches i s s') ∨ ∃ i, Touches i s s' ∧ ∃ x ∈ s.line, x.owner = .shutdown i := by
  unfold State.turn at h
  split at h
  · cases h
  · next n rest hl => cases h; exact .inl fun _ => touches_beginRestart hl
  · next task rest hl =>
    split at h
    · cases h; exact .inl fun _ => touches_callStop hl rfl
    · cases h
      have hx : Claim.enters (.shutdown task) ∈ s.line := by simp [hl]
      exact .inr ⟨task, touches_leave.trans (touches_endTask _), _, hx, rfl⟩
  · next owner w due f rest hl =>
    split at h
    · split at h
      · next n =>
        cases h
        exact .inl fun _ => (touches_note rfl).trans (touches_callStart n)
      · next task =>
        cases h
        have hx : Claim.stops (.shutdown task) w due f ∈ s.line := by simp [hl]
        refine .inr ⟨task, ?_, _, hx, rfl⟩
        exact (touches_note rfl).trans (touches_leave.trans (touches_endTask _))
    · cases h
  · next n due o rest hl =>
    split at h
    · cases h; exact .inl fun _ => touches_startReturned n o
    · cases h

/-! ## Steps -/

/-- Why a step may touch a task: the task is polled or cancelled, or its shutdown or its channel goes
on. -/
def State.Concerns (s : State) (i : Nat) (a : Action) : Prop :=
  a = .poll i ∨ a = .cancel i ∨ (∃ x ∈ s.line, x.owner = .shutdown i) ∨
    ∃ es isOpen, s.stage? i = some (.receiving es isOpen)

theorem touches_close :
    (∀ i, Touches i s s.close) ∨
      ∃ i, Touches i s s.close ∧ ∃ es isOpen, s.stage? i = some (.receiving es isOpen) := by
  unfold State.close
  split
  · next task es hi hg =>
    rw [hi] at hg
    exact .inr ⟨task, (touches_setStage _).trans (.of_same rfl rfl ⟨[], by simp, by simp⟩
      fun x hx _ hj => ⟨x, hx, hj⟩), es, true, hg⟩
  · exact .inl fun _ => .of_same rfl rfl ⟨[], by simp, by simp⟩ fun x hx _ hj => ⟨x, hx, hj⟩

theorem touches_send (e : Build.Event) :
    (∀ i, Touches i s (s.send e)) ∨
      ∃ i, Touches i s (s.send e) ∧ ∃ es isOpen, s.stage? i = some (.receiving es isOpen) := by
  unfold State.send
  split
  · next task es hi hg =>
    rw [hi] at hg
    exact .inr ⟨task, touches_setStage _, es, true, hg⟩
  · exact .inl fun _ => .refl s

theorem touches_spawn (e : Errand) :
    (∀ i, Touches i s (s.spawn e)) ∨
      ∃ i, Touches i s (s.spawn e) ∧ ∃ es isOpen, s.stage? i = some (.receiving es isOpen) := by
  cases e with
  | receive _ =>
    rcases touches_close (s := s) with h | ⟨i, h, hg⟩
    · exact .inl fun i => (h i).trans (touches_append _ _)
    · exact .inr ⟨i, h.trans (touches_append _ _), hg⟩
  | restartWorker | releaseClient _ | handle _ _ | shutdown =>
    exact .inl fun _ => touches_append _ s.inbox

theorem touches_cancel : Touches i s (s.cancel i) := by
  unfold State.cancel
  split
  · split
    · exact .refl s
    · have hl : Touches i s { s with line := s.line.filter (·.owner != Owner.shutdown i) } :=
        .of_same rfl rfl ⟨[], by simp, by simp⟩ fun x hx _ hj => ⟨x, (List.mem_filter.mp hx).1, hj⟩
      exact hl.trans (touches_setStage _)
  · exact .refl s

/-- **A step touches one task at most**, unless the clock moves. -/
theorem touches_step {a : Action} (h : step script s a = some s') (ha : ∀ ms, a ≠ .pass ms) :
    (∀ i, Touches i s s') ∨ ∃ i, Touches i s s' ∧ s.Concerns i a := by
  have hsame {s' : State} (hn : s'.now = s.now) (ht : s'.tasks = s.tasks) (hl : s'.line = s.line)
      (hk : ∃ k, s'.history = s.history ++ k ∧ ∀ u j r, (u, .taskEnded j r) ∉ k) (i : Nat) :
      Touches i s s' := .of_same hn ht hk fun x hx _ hj => ⟨x, hl ▸ hx, hj⟩
  have hopen {s' : State} (h : (∀ i, Touches i s s') ∨
      ∃ i, Touches i s s' ∧ ∃ es isOpen, s.stage? i = some (.receiving es isOpen)) :
      (∀ i, Touches i s s') ∨ ∃ i, Touches i s s' ∧ s.Concerns i a := by
    rcases h with h | ⟨i, h, hg⟩
    · exact .inl h
    · exact .inr ⟨i, h, .inr (.inr (.inr hg))⟩
  cases a with
  | request => cases h; exact .inl fun _ => touches_request
  | spawn e => cases h; exact hopen (touches_spawn e)
  | send e => cases h; exact hopen (touches_send e)
  | close => cases h; exact hopen touches_close
  | cancel i => cases h; exact .inr ⟨i, touches_cancel, .inr (.inl rfl)⟩
  | mark => cases h; exact .inl fun _ => touches_mark
  | unmark => cases h; exact .inl (hsame rfl rfl rfl ⟨_, rfl, by simp⟩)
  | killWorker =>
    cases h
    unfold State.killWorker
    split
    · exact .inl (hsame rfl rfl rfl ⟨_, rfl, by simp⟩)
    · exact .inl fun _ => .refl s
  | pass ms => exact absurd rfl (ha ms)
  | claim n =>
    simp only [step, State.claim] at h
    split at h
    · cases h
      refine .inl fun i => .of_same rfl rfl ⟨[], by simp, by simp⟩ fun x hx j hj => ?_
      rcases List.mem_append.mp hx with hx | hx
      · exact ⟨x, hx, hj⟩
      · cases List.mem_singleton.mp hx; cases hj
    · cases h
  | poll i => exact .inr ⟨i, touches_poll h, .inl rfl⟩
  | turn =>
    rcases touches_turn h with h | ⟨i, h, hx⟩
    · exact .inl h
    · exact .inr ⟨i, h, .inr (.inr (.inl hx))⟩

/-- Whoever a step does not concern is left alone. -/
theorem spares_step {a : Action} {j : Nat} (h : step script s a = some s')
    (ha : ∀ ms, a ≠ .pass ms) (hj : ¬s.Concerns j a) : ∃ i, j ≠ i ∧ Touches i s s' := by
  rcases touches_step h ha with h | ⟨i, h, hi⟩
  · exact ⟨j + 1, by omega, h _⟩
  · refine ⟨i, ?_, h⟩
    rintro rfl
    exact hj hi

end

/-- Whoever has a claim on the slot to shut the coordinator down is there to do that. -/
def State.Claimed (s : State) : Prop :=
  ∀ x ∈ s.line, ∀ j, x.owner = .shutdown j → ∃ t, s.tasks[j]? = some t ∧ t.errand = .shutdown

theorem State.Claimed.step {script : Script} {s s' : State} {a : Action} (hc : s.Claimed)
    (h : Restart.step script s a = some s') : s'.Claimed := by
  intro x hx j hj
  by_cases ha : ∃ ms, a = .pass ms
  · obtain ⟨ms, rfl⟩ := ha
    cases h
    exact hc x hx j hj
  · obtain ⟨i, ht⟩ : ∃ i, Touches i s s' := by
      rcases touches_step h fun ms hms => ha ⟨ms, hms⟩ with h | ⟨i, h, -⟩
      · exact ⟨0, h 0⟩
      · exact ⟨i, h⟩
    rcases ht.line x hx j hj with ⟨y, hy, hyj⟩ | h
    · obtain ⟨t, htj, he⟩ := hc y hy j hyj
      obtain ⟨t', htj', he', -⟩ := ht.task j t htj
      exact ⟨t', htj', he'.trans he⟩
    · exact h

theorem Reachable.claimant {script : Script} {s : State} (hs : Reachable script s) :
    ∀ x ∈ s.line, ∀ j, x.owner = .shutdown j →
      ∃ t, s.tasks[j]? = some t ∧ t.errand = .shutdown := by
  suffices h : s.Claimed from h
  induction hs with
  | new => exact nofun
  | step _ h ih => exact ih.step h

end DevServer.Restart
