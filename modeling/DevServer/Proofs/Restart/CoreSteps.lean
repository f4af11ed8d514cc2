import DevServer.Proofs.Restart.Core

/-!
# What the core of a dev loop does

A step from within either leaves the core of a state alone or is a step of the core (`core_poll`,
`core_claim`, `core_turn`). -/

namespace DevServer.Restart

/-! ## Tasks stay -/

/-- Every task is still there, for the same errand, and whoever had started has. -/
def State.Keeps (s s' : State) : Prop :=
  ∀ (i : Nat) (t : Task), s.tasks[i]? = some t → ∃ t' : Task, s'.tasks[i]? = some t' ∧
    t'.errand = t.errand ∧ (t.stage ≠ .fresh → t'.stage ≠ .fresh)

section
variable {script : Script} {s s' s'' : State} {i : Nat} {t : Task}

namespace State.Keeps

theorem of_tasks (h : s'.tasks = s.tasks) : s.Keeps s' :=
  fun _ t ht => ⟨t, by rw [h, ht], rfl, id⟩

theorem trans (h : s.Keeps s') (h' : s'.Keeps s'') : s.Keeps s'' := by
  intro i t ht
  obtain ⟨t', ht', he, hg⟩ := h i t ht
  obtain ⟨t'', ht'', he', hg'⟩ := h' i t' ht'
  exact ⟨t'', ht'', he'.trans he, fun h => hg' (hg h)⟩

theorem setStage {r : State} (hr : r.tasks = s.tasks) {g : Stage} (hg : g ≠ .fresh) :
    s.Keeps (r.setStage i g) := by
  intro j t ht
  simp only [State.setStage, List.getElem?_modify, hr, ht]
  split
  · exact ⟨_, rfl, rfl, fun _ => hg⟩
  · exact ⟨_, rfl, rfl, id⟩

theorem endTask {u : State} (hu : u.tasks = s.tasks) (r : Result) : s.Keeps (u.endTask i r) :=
  setStage (g := .ended r) hu nofun

theorem append (s : State) (u : Task) (inbox : Option Nat) :
    s.Keeps { s with tasks := s.tasks ++ [u], inbox } := by
  intro j t ht
  exact ⟨t, List.getElem?_append_left (List.getElem?_eq_some_iff.mp ht).1 ▸ ht, rfl, id⟩

theorem polled {er : Errand} {g : Stage} (hp : Polled s i er g s') : s.Keeps s' := by
  cases hp with
  | request | shutDown | hold => refine setStage ?_ ?_ <;> first | rfl | nofun
  | restarted | pass | released | serverRestarted => exact endTask rfl _
  | announce | buildFailed | serverLost | finish => exact endTask (u := s.note _) rfl _
  | announceSettled => exact endTask (u := (s.note (.clientSettled _)).note _) rfl _
  | @settle _ _ n o => cases o <;> refine setStage ?_ ?_ <;> first | rfl | nofun
  | serverBuilt _ _ h₁ =>
    refine setStage ?_ ?_
    · rw [h₁]; split <;> rfl
    · nofun
  | take h₁ =>
    rw [h₁]
    refine Keeps.trans (setStage rfl ?_) (append _ _ _)
    nofun
  | idle => exact of_tasks rfl

theorem close (s : State) : s.Keeps s.close := by
  unfold State.close
  split
  · refine Keeps.trans (setStage rfl ?_) (of_tasks rfl)
    nofun
  · exact of_tasks rfl

theorem step {a : Action} (hs : Restart.step script s a = some s') : s.Keeps s' := by
  cases a with
  | request | mark | unmark | pass => cases hs; exact of_tasks rfl
  | spawn er =>
    cases hs
    cases er with
    | receive ms => exact (close s).trans (append s.close _ _)
    | restartWorker | releaseClient | handle | shutdown => exact append s _ s.inbox
  | send e =>
    cases hs
    show s.Keeps (s.send e)
    unfold State.send
    split
    · refine setStage rfl ?_
      nofun
    · exact of_tasks rfl
  | close => cases hs; exact close s
  | cancel i =>
    cases hs
    show s.Keeps (s.cancel i)
    unfold State.cancel
    split
    · split
      · exact of_tasks rfl
      · refine setStage rfl ?_
        nofun
    · exact of_tasks rfl
  | killWorker =>
    cases hs
    refine of_tasks ?_
    unfold State.killWorker
    split <;> rfl
  | claim n =>
    simp only [Restart.step, State.claim] at hs
    split at hs
    · cases hs; exact of_tasks rfl
    · cases hs
  | poll i =>
    obtain ⟨t, -, hp⟩ := Restart.polled hs
    exact polled hp
  | turn =>
    obtain ⟨k, ht⟩ := Restart.turned hs
    cases ht with
    | nothingToStop | stopped => exact endTask rfl _
    | skip | stopPrevious | startFirst | startNext | stopLast | panic => exact of_tasks rfl
    | install =>
      refine of_tasks ?_
      simp only [State.startReturned, State.installWorker]
      split <;> rfl
    | fail _ _ hf => cases hf <;> exact of_tasks rfl

theorem run {ok : State → Action → Bool} (hr : Run script ok s s') : s.Keeps s' := by
  induction hr with
  | refl => exact of_tasks rfl
  | next _ _ hs ih => exact ih.trans (step hs)

end State.Keeps

end

/-! ## Sound states -/

/-- Every stage fits its errand, and whoever has a claim on the slot or a channel is there for it.
-/
structure State.Sound (s : State) : Prop where
  fit : s.Fit
  claimed : s.Claimed
  inbox : ∀ i, s.inbox = some i → ∃ t ms, s.tasks[i]? = some t ∧ t.errand = .receive ms

section
variable {script : Script} {s s' : State} {i j : Nat} {t : Task} {a : Action}

theorem length_close (s : State) : s.close.tasks.length = s.tasks.length := by
  unfold State.close
  split
  · exact List.length_modify ..
  · rfl

/-- Only a new loop opens a channel. -/
theorem inbox_step (h : step script s a = some s') : s'.inbox = s.inbox ∨ s'.inbox = none ∨
    ∃ t ms, s'.inbox = some s.tasks.length ∧ s'.tasks[s.tasks.length]? = some t ∧
      t.errand = .receive ms := by
  cases a with
  | request | mark | unmark | pass => cases h; exact .inl rfl
  | spawn er =>
    cases h
    cases er with
    | receive ms =>
      refine .inr (.inr ⟨⟨.receive ms, .receiving [] true, some s.numbered⟩, ms, rfl, ?_, rfl⟩)
      show (s.close.tasks ++ _)[_]? = _
      rw [← length_close, List.getElem?_concat_length]
    | restartWorker | releaseClient | handle | shutdown => exact .inl rfl
  | send e =>
    cases h
    unfold State.send
    split <;> exact .inl rfl
  | close =>
    cases h
    unfold State.close
    split <;> exact .inr (.inl rfl)
  | cancel i =>
    cases h
    unfold State.cancel
    split
    · split <;> exact .inl rfl
    · exact .inl rfl
  | killWorker =>
    cases h
    unfold State.killWorker
    split <;> exact .inl rfl
  | claim n =>
    simp only [step, State.claim] at h
    split at h
    · cases h; exact .inl rfl
    · cases h
  | poll i =>
    obtain ⟨t, -, hp⟩ := polled h
    refine .inl ?_
    generalize t.errand = er, t.stage = g at hp
    cases hp with
    | @settle _ _ n o => cases o <;> rfl
    | serverBuilt _ _ h₁ => rw [h₁]; split <;> rfl
    | take h₁ => rw [h₁]; rfl
    | _ => rfl
  | turn =>
    obtain ⟨hs, ht⟩ := turned h
    refine .inl ?_
    cases ht with
    | install =>
      simp only [State.startReturned, State.installWorker]
      split <;> rfl
    | fail _ _ hf => cases hf <;> rfl
    | _ => rfl

namespace State.Sound

theorem step (h : s.Sound) (hs : Restart.step script s a = some s') : s'.Sound where
  fit := h.fit.step hs
  claimed := h.claimed.step hs
  inbox := fun i hi => by
    rcases inbox_step hs with hsame | hnone | ⟨t, ms, hnew, ht, he⟩
    · obtain ⟨t, ms, ht, he⟩ := h.inbox i (hsame ▸ hi)
      obtain ⟨t', ht', he', -⟩ := State.Keeps.step hs i t ht
      exact ⟨t', ms, ht', he'.trans he⟩
    · rw [hnone] at hi; cases hi
    · rw [hnew] at hi; cases hi
      exact ⟨t, ms, ht, he⟩

theorem new : State.new.Sound := ⟨nofun, nofun, nofun⟩

theorem run (h : s.Sound) {ok : State → Action → Bool} (hr : Run script ok s s') : s'.Sound := by
  induction hr with
  | refl => exact h
  | next _ _ hs ih => exact ih.step hs

theorem core (h : s.Sound) : s.core.Sound where
  fit := fun u hu => by
    obtain ⟨t, ht, hu⟩ := List.mem_filterMap.mp hu
    have hf := h.fit t ht
    cases hc : t.errand.forClient with
    | true => rw [Task.core?_of_client hc] at hu; cases hu
    | false =>
      rw [Task.core?_of_not_client hc] at hu
      cases hu
      revert hf
      cases t.stage <;> exact fun hf => by first | exact hf | trivial
  claimed := fun y hy j hj => by
    obtain ⟨x, hx, rfl⟩ := List.mem_map.mp hy
    obtain ⟨i, ho, rfl⟩ : ∃ i, x.owner = .shutdown i ∧ s.rank i = j := by
      cases x with
      | enters o | stops o =>
        cases o with
        | restart => cases hj
        | shutdown i => cases hj; exact ⟨i, rfl, rfl⟩
      | starts => cases hj
    obtain ⟨t, ht, he⟩ := h.claimed x hx i ho
    exact ⟨_, getElem?_core ht (he ▸ rfl), he⟩
  inbox := fun j hj => by
    obtain ⟨i, hi, rfl⟩ := Option.map_eq_some_iff.mp hj
    obtain ⟨t, ms, ht, he⟩ := h.inbox i hi
    exact ⟨_, ms, getElem?_core ht (he ▸ rfl), he⟩

theorem setStage (h : s.Sound) (ht : s.tasks[i]? = some t) {g : Stage} (hg : t.errand.Fits g) :
    (s.setStage i g).Sound := by
  have hkeep {j : Nat} {u : Task} (hu : s.tasks[j]? = some u) :
      ∃ u', (s.setStage i g).tasks[j]? = some u' ∧ u'.errand = u.errand := by
    simp only [State.setStage, List.getElem?_modify, hu]
    split <;> exact ⟨_, rfl, rfl⟩
  refine ⟨h.fit.setStage_of ht hg, fun x hx j hj => ?_, fun j hj => ?_⟩
  · obtain ⟨u, hu, he⟩ := h.claimed x hx j hj
    obtain ⟨u', hu', he'⟩ := hkeep hu
    exact ⟨u', hu', he'.trans he⟩
  · obtain ⟨u, ms, hu, he⟩ := h.inbox j hj
    obtain ⟨u', hu', he'⟩ := hkeep hu
    exact ⟨u', ms, hu', he'.trans he⟩

end State.Sound

/-! ## The owner of the slot -/

/-- The head of the line ends a shutdown. -/
theorem core_endShutdown (hs : s.Claimed) {x : Claim} {rest : List Claim} (hl : s.line = x :: rest)
    (hx : x.owner = .shutdown i) (r : Result) :
    (s.leave.endTask i r).core = s.core.leave.setStage (s.rank i) .cancelled := by
  obtain ⟨t, ht, he⟩ := hs x (hl ▸ List.mem_cons_self ..) i hx
  rw [core_endTask (s := s.leave) ht (he ▸ rfl), core_leave]
  rfl

theorem core_stopped (hs : s.Claimed) {w due : Nat} {f : Option Worker.Fault} {rest : List Claim}
    (hl : s.line = .stops (.shutdown i) w due f :: rest) :
    ((s.note (.stopReturned (.shutdown i) w f)).leave.endTask i .shutDown).core =
      (s.core.note (.stopReturned (.shutdown 0) w f)).leave.setStage (s.rank i) .cancelled := by
  have hn : (s.note (.stopReturned (.shutdown i) w f)).core =
      s.core.note (.stopReturned (.shutdown 0) w f) := core_note rfl
  rw [core_endShutdown (s := s.note _) hs hl rfl, hn]
  rfl

/-- **The owner of the slot does in the core what it does in the state.** -/
theorem core_turn (script : Script) (hs : s.Sound) :
    (s.turn script).map State.core = (s.core.turn script).map State.core := by
  have hsc := hs.core.claimed
  rcases hl : s.line with _ | ⟨x, rest⟩
  · have hc : s.core.line = [] := congrArg (List.map _) hl
    rw [State.turn, State.turn, hl, hc]
  have hc : s.core.line = x.renumber s.rank :: rest.map (·.renumber s.rank) :=
    congrArg (List.map _) hl
  unfold State.turn
  rw [hl, hc]
  cases x with
  | enters owner =>
    cases owner with
    | restart n =>
      refine congrArg some ?_
      rw [core_beginRestart, core_beginRestart, core_core]
    | shutdown i =>
      have hslot : s.core.slot = s.slot := rfl
      simp only [hslot]
      rcases hw : s.slot with _ | w
      · refine congrArg some ?_
        rw [core_endShutdown hs.claimed hl rfl, core_endShutdown hsc hc rfl, core_core,
          rank_core_rank]
      · refine congrArg some ?_
        have ho : Owner.renumber s.core.rank (.shutdown (s.rank i)) = .shutdown (s.rank i) :=
          Owner.renumber_core s (.shutdown i)
        rw [core_callStop, core_callStop, core_core, ho]
        rfl
  | stops owner w due f =>
    show Option.map _ (if due ≤ s.now then _ else _) = Option.map _ (if due ≤ s.now then _ else _)
    split
    · cases owner with
      | restart n =>
        refine congrArg some ?_
        rw [core_callStart, core_callStart, core_note rfl, core_note rfl, core_core]
        rfl
      | shutdown i =>
        have hcs := core_stopped hsc hc
        rw [core_core, rank_core_rank] at hcs
        exact congrArg some ((core_stopped hs.claimed hl).trans hcs.symm)
    · rfl
  | starts n due o =>
    show Option.map _ (if due ≤ s.now then _ else _) = Option.map _ (if due ≤ s.now then _ else _)
    split
    · refine congrArg some ?_
      rw [core_startReturned, core_startReturned, core_core]
    · rfl

/-! ## Tasks -/

/-- Those who wait, and client builds, do nothing to the core. -/
theorem core_polled_same {er : Errand} {g : Stage} (ht : s.tasks[i]? = some t) (he : t.errand = er)
    (hg : t.stage = g) (hf : er.Fits g) (h : er.forClient = true ∨ g.core = .cancelled)
    (hp : Polled s i er g s') : s'.core = s.core := by
  have hsame : t.errand.forClient = true ∨ t.stage.core = .cancelled := by rw [he, hg]; exact h
  have hend (r : Result) : (s.endTask i r).core = s.core := core_endTask_same ht hsame r
  have hnote {x : Happening} (hx : x.ofTask = true) (r : Result) :
      ((s.note x).endTask i r).core = s.core :=
    (core_endTask_same (s := s.note x) ht hsame r).trans (core_note_task hx)
  cases hp with
  | request | shutDown | idle => rcases h with h | h <;> cases h
  | restarted | pass | released | serverRestarted => exact hend _
  | buildFailed | serverLost | finish => exact hnote rfl _
  | announce => exact hnote rfl _
  | @announceSettled e _ _ _ hd =>
    exact (core_endTask_same (s := (s.note (.clientSettled e.build)).note _) ht hsame _).trans
      ((core_note_task rfl).trans (core_note_task rfl))
  | @hold _ _ n hm hn =>
    refine (core_setStage_same (s := s.note (.clientWaits n)) ht ?_).trans (core_note_task rfl)
    exact hsame.imp_right Eq.symm
  | @settle _ ms n o hc ho =>
    cases o with
    | succeeded => exact core_setStage_same ht (.inl (he ▸ hc))
    | failed reason =>
      have hn : (s.note (.clientWaitFailed n reason)).core = s.core := core_note_task rfl
      exact (core_setStage_same (s := s.note _) ht (.inl (he ▸ hc))).trans hn
  | serverBuilt hs hser =>
    rcases h with h | h
    · simp [Errand.forClient, hser] at h
    · cases h
  | take => rcases h with h | h <;> cases h

/-- Somebody asks for a restart and waits for it. -/
theorem core_awaitRestart (ht : s.tasks[i]? = some t) (hc : t.errand.forClient = false) (n : Nat) :
    (s.request.setStage i (.waiting n)).core = s.core.request.setStage (s.rank i) .cancelled := by
  rw [core_setStage (s := s.request) ht hc, core_request]
  rfl

theorem core_serverBuilt (ht : s.tasks[i]? = some t) (hc : t.errand.forClient = false)
    (build n : Nat) :
    ((s.note (.serverBuilt build)).request.setStage i (.waiting n)).core =
      s.core.request.setStage (s.rank i) .cancelled := by
  rw [core_awaitRestart (s := s.note _) ht hc, core_note_task rfl]
  rfl

theorem core_handleFresh (ht : s.tasks[i]? = some t) (hc : t.errand.forClient = false)
    {e : Build.Event} (he : e.target = .server) :
    (s.handleFresh i e).core =
      if e.success then (State.request (if e.touchedServer then
        { s.core with changed := true }.note .marked else s.core)).setStage (s.rank i) .cancelled
      else s.core.setStage (s.rank i) .cancelled := by
  cases hs : e.success with
  | true =>
    obtain ⟨m, hm⟩ : ∃ m, m = { s with changed := true }.note .marked := ⟨_, rfl⟩
    have htm : m.tasks[i]? = some t := hm ▸ ht
    have hcm : m.core = { s.core with changed := true }.note .marked := hm ▸ core_mark s
    have hrm : m.rank = s.rank := hm ▸ rfl
    simp only [State.handleFresh, hs, he, Bool.not_true, Bool.false_eq_true, ↓reduceIte, ← hm]
    split
    · rw [core_serverBuilt htm hc, hcm, hrm]
    · exact core_serverBuilt ht hc _ _
  | false =>
    have hn : (s.note (.buildFailed e.target e.build)).core = s.core := core_note_task rfl
    simp only [State.handleFresh, hs, Bool.not_false, ↓reduceIte, Bool.false_eq_true]
    rw [core_endTask (s := s.note _) ht hc, hn]
    rfl

theorem core_callShutdown (ht : s.tasks[i]? = some t) (hc : t.errand.forClient = false) :
    (s.startTask i .shutdown).core =
      ({ s.core with
        shutDown := true, line := s.core.line ++ [Claim.enters (.shutdown (s.rank i))] }.note
          .shutdownCalled).setStage (s.rank i) .claiming := by
  have hl : (s.line ++ [Claim.enters (.shutdown i)]).map (·.renumber s.rank) =
      s.core.line ++ [.enters (.shutdown (s.rank i))] := List.map_append
  obtain ⟨m, hm⟩ : ∃ m, m = { s with
    shutDown := true, line := s.line ++ [Claim.enters (.shutdown i)] }.note .shutdownCalled :=
      ⟨_, rfl⟩
  have htm : m.tasks[i]? = some t := hm ▸ ht
  have hrm : m.rank = s.rank := hm ▸ rfl
  have hcm : m.core = { s.core with
      shutDown := true, line := s.core.line ++ [Claim.enters (.shutdown (s.rank i))] }.note
        .shutdownCalled := by
    rw [hm, core_note rfl, ← hl]
    rfl
  rw [State.startTask, ← hm, core_setStage htm hc, hcm, hrm]
  rfl

/-- A task that counts starts in the core as it does in the state. -/
theorem core_startTask (ht : s.tasks[i]? = some t) (hc : t.errand.forClient = false) :
    (s.startTask i t.errand).core = (s.core.startTask (s.rank i) t.errand).core := by
  have htc := tasks_core ht hc
  obtain ⟨er, g, k⟩ := t
  cases er with
  | restartWorker =>
    have h := core_awaitRestart htc hc s.core.tracker.ticket
    rw [core_core, rank_core_rank] at h
    exact (core_awaitRestart ht hc _).trans h.symm
  | releaseClient => cases hc
  | handle e ms =>
    have he : e.target = .server := by
      simp only [Errand.forClient] at hc
      cases h : e.target <;> simp_all
    have h := core_handleFresh htc hc he
    rw [core_core, rank_core_rank] at h
    exact (core_handleFresh ht hc he).trans h.symm
  | receive ms => exact (core_core s).symm
  | shutdown =>
    have h := core_callShutdown htc hc
    rw [core_core, rank_core_rank] at h
    exact (core_callShutdown ht hc).trans h.symm

theorem Claim.renumber_congr {f f' : Nat → Nat} {x : Claim}
    (h : ∀ i, x.owner = .shutdown i → f i = f' i) : x.renumber f = x.renumber f' := by
  have ho (owner : Owner) (h : ∀ i, owner = .shutdown i → f i = f' i) :
      owner.renumber f = owner.renumber f' := by
    cases owner with
    | restart => rfl
    | shutdown i => exact congrArg Owner.shutdown (h i rfl)
  cases x with
  | enters owner => exact congrArg Claim.enters (ho owner h)
  | stops owner w due fault => exact congrArg (Claim.stops · w due fault) (ho owner h)
  | starts => rfl

/-- Those who are there already keep their places when tasks come. -/
theorem line_append (hs : s.Claimed) (k : List Task) :
    s.line.map (·.renumber (rank (s.tasks ++ k))) = s.line.map (·.renumber s.rank) := by
  refine List.map_congr_left fun x hx => Claim.renumber_congr fun i hi => ?_
  obtain ⟨t, ht, -⟩ := hs x hx i hi
  exact rank_append (Nat.le_of_lt (List.getElem?_eq_some_iff.mp ht).1)

theorem inbox_append (hs : s.Sound) (k : List Task) :
    s.inbox.map (rank (s.tasks ++ k)) = s.inbox.map s.rank := by
  rcases hi : s.inbox with _ | i
  · rfl
  · obtain ⟨t, ms, ht, -⟩ := hs.inbox i hi
    exact congrArg some (rank_append (Nat.le_of_lt (List.getElem?_eq_some_iff.mp ht).1))

theorem core_append (hs : s.Sound) (u : Task) :
    State.core { s with tasks := s.tasks ++ [u] } =
      { s.core with tasks := s.core.tasks ++ u.core?.toList } := by
  have ht : (s.tasks ++ [u]).filterMap Task.core? = s.core.tasks ++ u.core?.toList := by
    rw [List.filterMap_append]
    cases h : u.core? <;> simp [State.core, h]
  show ({ s with
    line := s.line.map (·.renumber (rank (s.tasks ++ [u])))
    tasks := (s.tasks ++ [u]).filterMap Task.core?
    inbox := s.inbox.map (rank (s.tasks ++ [u]))
    history := s.history.core } : State) = _
  rw [line_append hs.claimed, inbox_append hs, ht]
  rfl

/-! ## Everything that comes from within -/

/-- What the core of `s` does (`c`) when the state does `m`. -/
inductive Mirrors (s : State) : (m c : Option State) → Prop where
  | still : Mirrors s none none
  /-- The step is nothing to the core. -/
  | same {s' : State} {c : Option State} (h : s'.core = s.core) : Mirrors s (some s') c
  | both {s' c : State} (h : c.core = s'.core) : Mirrors s (some s') (some c)

theorem Mirrors.of_map {m c : Option State} (h : m.map State.core = c.map State.core) :
    Mirrors s m c := by
  cases m with
  | none => cases c <;> first | exact .still | cases h
  | some s' =>
    cases c with
    | none => cases h
    | some c => exact .both (Option.some.inj h).symm

theorem Mirrors.or {m m' c c' : Option State} (h : Mirrors s m c) (h' : Mirrors s m' c') :
    Mirrors s (m.or m') (c.or c') := by
  cases h with
  | still => exact h'
  | same h => exact .same h
  | both h => exact .both h

/-- Client builds, and those who have started to wait, go on without the core. -/
theorem mirrors_same (hs : s.Sound) (ht : s.tasks[i]? = some t)
    (h : t.errand.forClient = true ∨ t.stage.core = .cancelled) : Mirrors s (s.poll i) none := by
  rcases hm : s.poll i with _ | s'
  · exact .still
  · obtain ⟨u, hu, hp⟩ := polled hm
    rw [ht] at hu
    cases hu
    exact .same (core_polled_same ht rfl rfl (hs.fit t (List.mem_of_getElem? ht)) h hp)

/-- A loop takes the same events in the core, but for those of client builds. -/
theorem mirrors_receiving (hs : s.Sound) {ms : Nat} {es : List Build.Event} {isOpen : Bool}
    {k : Option Nat} (ht : s.tasks[i]? = some ⟨.receive ms, .receiving es isOpen, k⟩) :
    Mirrors s (s.poll i) (s.core.poll (s.rank i)) := by
  have htc := tasks_core ht rfl
  have hp : s.poll i = s.receive i ms isOpen es := by simp [State.poll, ht]
  have hpc : s.core.poll (s.rank i) =
      s.core.receive (s.rank i) ms isOpen (es.filter (·.target == .server)) := by
    simp [State.poll, htc, Stage.core]
  rw [hp, hpc]
  rcases es with _ | ⟨e, es⟩
  · cases isOpen with
    | true => exact .still
    | false =>
      have hn : (s.note .loopFinished).core = s.core := core_note_task rfl
      have hnc : (s.core.note .loopFinished).core = s.core :=
        (core_note_task rfl).trans (core_core s)
      refine .both ?_
      rw [core_endTask (s := s.core.note _) htc rfl, core_endTask (s := s.note _) ht rfl, hn, hnc]
      exact congrArg (State.setStage s.core · .cancelled) (rank_core_rank s i)
  · have hss : (s.setStage i (.receiving es isOpen)).Sound := hs.setStage ht ⟨ms, rfl⟩
    have happ := core_append hss ⟨.handle e ms, .fresh, none⟩
    cases htar : e.target with
    | server =>
      have hu : Task.core? ⟨.handle e ms, .fresh, none⟩ = some ⟨.handle e ms, .fresh, none⟩ :=
        Task.core?_of_not_client (by simp [Errand.forClient, htar])
      rw [core_setStage ht rfl, hu] at happ
      have hc : s.core.receive (s.rank i) ms isOpen ((e :: es).filter (·.target == .server)) =
          some (State.core { s.setStage i (.receiving es isOpen) with
            tasks :=
              (s.setStage i (.receiving es isOpen)).tasks ++ [⟨.handle e ms, .fresh, none⟩] }) := by
        rw [happ, List.filter_cons_of_pos (by rw [htar]; rfl)]
        rfl
      rw [hc]
      exact .both (core_core _)
    | client =>
      have hu : Task.core? ⟨.handle e ms, .fresh, none⟩ = none :=
        Task.core?_of_client (by simp [Errand.forClient, htar])
      have hg : (Stage.receiving es isOpen).core = (Stage.receiving (e :: es) isOpen).core := by
        simp [Stage.core, htar]
      rw [core_setStage_same ht (.inr hg), hu] at happ
      exact .same (happ.trans (by simp))

/-- A task that counts goes on in the core as it does in the state. -/
theorem mirrors_poll (hs : s.Sound) (ht : s.tasks[i]? = some t) (hc : t.errand.forClient = false) :
    Mirrors s (s.poll i) (s.core.poll (s.rank i)) := by
  have htc := tasks_core ht hc
  have hf := hs.fit t (List.mem_of_getElem? ht)
  -- whoever has started to wait does not go on in the core
  have hsame (h : t.stage.core = .cancelled) : Mirrors s (s.poll i) (s.core.poll (s.rank i)) := by
    have hn : s.core.poll (s.rank i) = none := by simp [State.poll, htc, h]
    rw [hn]
    exact mirrors_same hs ht (.inr h)
  cases hg : t.stage with
  | fresh =>
    rw [poll_fresh ht hg, poll_fresh htc (by rw [hg]; rfl)]
    exact .both (core_startTask ht hc).symm
  | waiting | settling | ended | cancelled => exact hsame (by rw [hg]; rfl)
  | claiming =>
    have hn : s.poll i = none := by simp [State.poll, ht, hg]
    have hnc : s.core.poll (s.rank i) = none := by simp [State.poll, htc, hg, Stage.core]
    rw [hn, hnc]
    exact .still
  | receiving es isOpen =>
    rw [hg] at hf
    obtain ⟨ms, he⟩ := hf
    obtain ⟨er, g, k⟩ := t
    cases he
    cases hg
    exact mirrors_receiving hs ht

/-- **Everything that comes from within** is nothing to the core, or comes first in the core too. -/
theorem mirrors_move? (script : Script) (hs : s.Sound) :
    Mirrors s (s.move? script) (s.core.move? script) := by
  -- by induction on how many tasks have been tried
  have hpolls (k : Nat) (hk : k ≤ s.tasks.length) :
      Mirrors s ((List.range k).findSome? s.poll)
        ((List.range (s.rank k)).findSome? s.core.poll) := by
    induction k with
    | zero => exact .still
    | succ k ih =>
      obtain ⟨t, ht⟩ : ∃ t, s.tasks[k]? = some t := ⟨_, List.getElem?_eq_getElem hk⟩
      have hrank : s.rank (k + 1) = s.rank k + if t.errand.forClient then 0 else 1 := rank_succ ht
      have ih := ih (Nat.le_of_lt hk)
      rw [List.range_succ, List.findSome?_append, hrank]
      cases hc : t.errand.forClient with
      | true => simpa using ih.or (mirrors_same hs ht (.inl hc))
      | false =>
        simp only [Bool.false_eq_true, ↓reduceIte, List.range_succ, List.findSome?_append]
        simpa using ih.or (mirrors_poll hs ht hc)
  have hclaims (l : List Nat) : Mirrors s (l.findSome? s.claim) (l.findSome? s.core.claim) := by
    induction l with
    | nil => exact .still
    | cons n l ih =>
      have hn : Mirrors s (s.claim n) (s.core.claim n) := .of_map (by
        rw [← core_claim, Option.map_map]
        congr 1
        funext r
        exact (core_core r).symm)
      rw [← List.singleton_append, List.findSome?_append, List.findSome?_append]
      simpa using hn.or ih
  have hturn : Mirrors s (s.turn script) (s.core.turn script) := .of_map (core_turn script hs)
  have hmove (r : State) : r.move? script = (((List.range r.tasks.length).findSome? r.poll).or
      (r.unclaimed.findSome? r.claim)).or (r.turn script) := by
    rw [State.move?, State.moves, List.findSome?_append, List.findSome?_append, List.findSome?_map,
      List.findSome?_map, List.findSome?_singleton]
    rfl
  have hlen : s.core.tasks.length = s.rank s.tasks.length := (rank_length s.tasks).symm
  rw [hmove, hmove, hlen]
  exact ((hpolls _ (Nat.le_refl _)).or (hclaims s.unclaimed)).or hturn

/-! ## Letting everything go on -/

theorem work_stage_core_le (g : Stage) : g.core.work ≤ g.work := by
  cases g with
  | receiving es isOpen =>
    have := List.length_filter_le (fun e : Build.Event => e.target == .server) es
    simp only [Stage.core, Stage.work]
    omega
  | fresh => exact Nat.le_refl _
  | waiting | settling | claiming | ended | cancelled => exact Nat.zero_le _

theorem work_core_le (s : State) : s.core.work ≤ s.work := by
  have ht (l : List Task) : ((l.filterMap Task.core?).map (·.stage.work)).sum ≤
      (l.map (·.stage.work)).sum := by
    induction l with
    | nil => exact Nat.le_refl _
    | cons t l ih =>
      have hw := work_stage_core_le t.stage
      cases hc : t.errand.forClient with
      | true => simp only [List.filterMap_cons, Task.core?_of_client hc, List.map_cons,
          List.sum_cons]; omega
      | false =>
        simp only [List.filterMap_cons, Task.core?_of_not_client hc, List.map_cons, List.sum_cons]
        omega
  have hl : (s.core.line.map Claim.work).sum = (s.line.map Claim.work).sum := by
    show ((s.line.map _).map _).sum = _
    rw [List.map_map]
    congr 1
    refine List.map_congr_left fun x _ => ?_
    cases x <;> rfl
  have hu : s.core.unclaimed = s.unclaimed := rfl
  have := ht s.tasks
  rw [work_eq, work_eq, hl, hu]
  show ((s.tasks.filterMap Task.core?).map (·.stage.work)).sum + _ + _ ≤ _
  omega

/-- **What the core of a state comes to is the core of what the state comes to.** -/
theorem core_rest (script : Script) {s : State} (hs : s.Sound) :
    (s.rest script).core = (s.core.rest script).core := by
  have hmirror := mirrors_move? script hs
  generalize hm : s.move? script = m, hc : s.core.move? script = c at hmirror
  cases hmirror with
  | still => rw [rest_of_still hm, rest_of_still hc, core_core]
  | @same s' _ h =>
    obtain ⟨a, ha, hstep⟩ := step_of_move? hm
    have hw : s'.work < s.work := work_lt hs.fit ha hstep
    rw [rest_of_move hs.fit hm, core_rest script (hs.step hstep), h]
  | @both s' c h =>
    obtain ⟨a, ha, hstep⟩ := step_of_move? hm
    obtain ⟨b, hb, hcstep⟩ := step_of_move? hc
    have hw : s'.work < s.work := work_lt hs.fit ha hstep
    have hwc : c.work < s.work :=
      Nat.lt_of_lt_of_le (work_lt hs.core.fit hb hcstep) (work_core_le s)
    rw [rest_of_move hs.fit hm, rest_of_move hs.core.fit hc, core_rest script (hs.step hstep),
      core_rest script (hs.core.step hcstep), h]
termination_by s.work

theorem State.Sound.rest (script : Script) (hs : s.Sound) : (s.rest script).Sound :=
  moveTimes_keeps (fun _ _ _ h _ hstep => h.step hstep) hs _

end

end DevServer.Restart
