import DevServer.Proofs.Restart.CoreInputs

/-!
# Sessions

A session is a dev loop that somebody outside gives instructions to, with what each was answered. An
instruction may be left out (`Session.skip`), and the others still mean the same tasks.
`Session.core` is what is left of a session without those who only wait: an instruction does the
same to two sessions with the same core (`core_follow`), and one that is of no consequence
(`Instruction.Idle`) may as well be left out (`core_follow_idle`).
-/

namespace DevServer.Restart

/-! ## Definitions -/

/-- What somebody outside does, or how long they let the dev loop go on. -/
inductive Instruction where
  | request
  /-- A task is started. -/
  | call (errand : Errand)
  /-- The task goes on that the instruction at `place` started, if it never has. -/
  | letStart (place : Nat)
  | send (event : Build.Event)
  | close
  /-- The task is given up that the instruction at `place` started. -/
  | cancel (place : Nat)
  | mark
  | unmark
  | killWorker
  /-- Everything goes on, and a time passes. -/
  | wait (ms : Nat)
  deriving DecidableEq, Repr

/-- What an instruction is answered. -/
inductive Reply where
  | ticket (ticket : Nat)
  /-- A task has been started. -/
  | task (task : Nat)
  deriving DecidableEq, Repr

/-- A task goes on for the first time. -/
def State.letStart (s : State) (task : Nat) : State :=
  match s.tasks[task]? with
  | some ⟨errand, .fresh, _⟩ => s.startTask task errand
  | _ => s

structure Session where
  state : State
  /-- What each instruction was answered, if anything; one that was left out was not. -/
  replies : List (Option Reply)
  deriving Repr

namespace Session

def new : Session := ⟨.new, []⟩

/-- The task that an instruction started. -/
def taskAt? (p : Session) (place : Nat) : Option Nat :=
  match p.replies[place]? with
  | some (some (.task task)) => some task
  | _ => none

def respond (script : Script) (p : Session) : Instruction → State × Option Reply
  | .request => (p.state.request, some (.ticket p.state.tracker.ticket))
  | .call errand => (p.state.spawn errand, some (.task p.state.tasks.length))
  | .letStart place => ((p.taskAt? place).elim p.state p.state.letStart, none)
  | .send event => (p.state.send event, none)
  | .close => (p.state.close, none)
  | .cancel place => ((p.taskAt? place).elim p.state p.state.cancel, none)
  | .mark => ({ p.state with changed := true }.note .marked, none)
  | .unmark => ({ p.state with changed := false }.note .unmarked, none)
  | .killWorker => (p.state.killWorker, none)
  | .wait ms => ((p.state.rest script).wait script ms, none)

/-- The dev loop goes on to a state, and the next instruction has been answered. -/
def next (p : Session) (s : State) (reply : Option Reply) : Session := ⟨s, p.replies ++ [reply]⟩

def follow (script : Script) (p : Session) (o : Instruction) : Session :=
  p.next (p.respond script o).1 (p.respond script o).2

/-- An instruction is left out. -/
def skip (p : Session) : Session := p.next p.state none

def obey (script : Script) (p : Session) (kept : Bool) (o : Instruction) : Session :=
  if kept then p.follow script o else p.skip

/-- The instructions of a plan are followed, but for those at places that are not `kept`. -/
def play (script : Script) (kept : Nat → Bool) (p : Session) (plan : List Instruction) : Session :=
  plan.foldl (fun p o => p.obey script (kept p.replies.length) o) p

end Session

/-- Instructions that let the task go on that the instruction at `place` started. -/
def Instruction.Polls (place : Nat) : Instruction → Prop
  | .letStart n => n = place
  | .wait _ => True
  | .request | .call _ | .send _ | .close | .cancel _ | .mark | .unmark | .killWorker => False

/-- Instructions of no consequence after those in `past`: a client build is told of, or a task is
given up that waits for a client build, or that waits for a restart and has gone on before. -/
def Instruction.Idle (past : List Instruction) : Instruction → Prop
  | .call errand => errand.forClient = true
  | .send event => event.target = .client
  | .cancel place => ∃ errand, past[place]? = some (.call errand) ∧
    (errand.forClient = true ∨ errand.onlyWaits = true ∧ ∃ o ∈ past.drop place, o.Polls place)
  | .request | .letStart _ | .close | .mark | .unmark | .killWorker | .wait _ => False

/-- Only instructions of no consequence are left out. -/
def Spares (kept : Nat → Bool) (plan : List Instruction) : Prop :=
  ∀ i o, plan[i]? = some o → kept i = false → o.Idle (plan.take i)

theorem Instruction.Idle.not_polls {past : List Instruction} {o : Instruction} (h : o.Idle past)
    (place : Nat) : ¬o.Polls place := by
  cases o <;> first | exact h.elim | exact id

/-- What an answer is when nobody cares for client builds. -/
def Reply.core? (s : State) : Reply → Option Reply
  | .ticket n => some (.ticket n)
  | .task i =>
    s.tasks[i]?.bind fun t => if t.errand.forClient then none else some (.task (s.rank i))

def Session.core (p : Session) : Session :=
  ⟨p.state.core, p.replies.map (·.bind (Reply.core? p.state))⟩

/-! ## Sound sessions -/

/-- A sound state, and the tasks that instructions started; none is fresh that has gone on. -/
structure Session.Sound (past : List Instruction) (p : Session) : Prop where
  state : p.state.Sound
  length : p.replies.length = past.length
  task : ∀ n i, p.taskAt? n = some i → ∃ t, p.state.tasks[i]? = some t ∧
    past[n]? = some (.call t.errand) ∧ ((∃ o ∈ past.drop n, o.Polls n) → t.stage ≠ .fresh)

section
variable {script : Script} {past : List Instruction} {p q : Session} {s s' : State} {i n : Nat}
  {t : Task} {o : Instruction} {r : Option Reply}

namespace Session.Sound

theorem new : Session.Sound [] .new := ⟨.new, rfl, fun n i h => by simp [taskAt?, Session.new] at h⟩

theorem inner (hp : p.Sound past) (hs : s.Sound) (hk : p.state.Keeps s) :
    Session.Sound past ⟨s, p.replies⟩ where
  state := hs
  length := hp.length
  task := fun n i h => by
    obtain ⟨t, ht, hc, hw⟩ := hp.task n i h
    obtain ⟨t', ht', he, hg⟩ := hk i t ht
    exact ⟨t', ht', he ▸ hc, fun h => hg (hw h)⟩

theorem next (hp : p.Sound past) (hs : s.Sound) (hk : p.state.Keeps s)
    (hr : ∀ i, r = some (.task i) → ∃ t, s.tasks[i]? = some t ∧ o = .call t.errand)
    (hw : ∀ n i t, p.taskAt? n = some i → o.Polls n → s.tasks[i]? = some t → t.stage ≠ .fresh) :
    Session.Sound (past ++ [o]) (p.next s r) where
  state := hs
  length := by simp [Session.next, hp.length]
  task := fun n i h => by
    rcases Nat.lt_trichotomy n past.length with hlt | rfl | hgt
    · have hold : p.taskAt? n = some i := by
        rw [← h, taskAt?, taskAt?, Session.next, List.getElem?_append_left (hp.length ▸ hlt)]
      obtain ⟨t, ht, hc, hpolled⟩ := hp.task n i hold
      obtain ⟨t', ht', he, hg⟩ := hk i t ht
      refine ⟨t', ht', ?_, ?_⟩
      · rw [List.getElem?_append_left hlt, hc, he]
      · rintro ⟨x, hx, hpx⟩
        rw [List.drop_append_of_le_length (Nat.le_of_lt hlt)] at hx
        rcases List.mem_append.mp hx with hx | hx
        · exact hg (hpolled ⟨x, hx, hpx⟩)
        · rw [List.mem_singleton.mp hx] at hpx
          exact hw n i t' hold hpx ht'
    · have hi : r = some (.task i) := by
        rw [taskAt?, Session.next, ← hp.length, List.getElem?_concat_length] at h
        split at h
        · next hreply => cases h; exact Option.some.inj hreply
        · cases h
      obtain ⟨t, ht, ho⟩ := hr i hi
      refine ⟨t, ht, by rw [List.getElem?_concat_length, ho], ?_⟩
      rintro ⟨x, hx, hpx⟩
      rw [List.drop_left, ho] at hx
      rw [List.mem_singleton.mp hx] at hpx
      exact hpx.elim
    · have : (p.next s r).replies[n]? = none := by
        refine List.getElem?_eq_none ?_
        simp [Session.next, hp.length]
        omega
      rw [taskAt?, this] at h
      cases h

end Session.Sound

/-! ### Instructions keep sessions sound -/

theorem letsGo_anyAction : LetsGo script anyAction := ⟨fun _ _ _ => rfl, fun _ _ _ => rfl⟩

theorem run_respond_wait (script : Script) (hs : s.Sound) (ms : Nat) :
    Run script anyAction s ((s.rest script).wait script ms) ∧
      ((s.rest script).wait script ms).Still script := by
  have hst : (s.rest script).Still script := still_rest hs.fit
  obtain ⟨hr, hst, -⟩ := run_wait letsGo_anyAction (hs.rest script).fit hst ms
  exact ⟨(run_rest letsGo_anyAction s).trans hr, hst⟩

theorem letStart_fresh (ht : s.tasks[i]? = some t) (hg : t.stage = .fresh) :
    s.letStart i = s.startTask i t.errand := by
  obtain ⟨er, g, k⟩ := t
  cases hg
  simp [State.letStart, ht]

theorem letStart_started (ht : s.tasks[i]? = some t) (hg : t.stage ≠ .fresh) :
    s.letStart i = s := by
  rw [State.letStart, ht]
  split
  · next h => cases h; exact absurd rfl hg
  · rfl

theorem sound_letStart (hs : s.Sound) (ht : s.tasks[i]? = some t) :
    (s.letStart i).Sound ∧ s.Keeps (s.letStart i) := by
  by_cases hg : t.stage = .fresh
  · have hstep : step ⟨[], []⟩ s (.poll i) = some (s.letStart i) :=
      (poll_fresh ht hg).trans (congrArg some (letStart_fresh ht hg).symm)
    exact ⟨hs.step hstep, .step hstep⟩
  · rw [letStart_started ht hg]
    exact ⟨hs, .of_tasks rfl⟩

theorem ne_fresh_of_polled {er : Errand} (hp : Polled s i er .fresh s')
    (he : ∀ ms, er ≠ .receive ms) (ht : s'.tasks[i]? = some t) : t.stage ≠ .fresh := by
  have hset {r : State} {g : Stage} (ht : (r.setStage i g).tasks[i]? = some t) (hg : g ≠ .fresh) :
      t.stage ≠ .fresh := stage_setStage ht ▸ hg
  cases hp with
  | idle => exact absurd rfl (he _)
  | _ => exact hset ht nofun

/-- Whoever has been let go on has started. -/
theorem ne_fresh_of_letStart (hs : s.Sound) (ht : (s.letStart i).tasks[i]? = some t) :
    t.stage ≠ .fresh := by
  rcases hu : s.tasks[i]? with _ | u
  · have hsame : s.letStart i = s := by rw [State.letStart, hu]
    rw [hsame, hu] at ht
    cases ht
  · by_cases hg : u.stage = .fresh
    · have hf := hs.fit u (List.mem_of_getElem? hu)
      rw [hg] at hf
      rw [letStart_fresh hu hg] at ht
      exact ne_fresh_of_polled (polled_startTask s i u.errand) hf ht
    · rw [letStart_started hu hg, hu] at ht
      cases ht
      exact hg

theorem sound_respond (script : Script) (hp : p.Sound past) (o : Instruction) :
    (p.respond script o).1.Sound ∧ p.state.Keeps (p.respond script o).1 := by
  have hstep {a : Action} {s : State} (h : step script p.state a = some s) :
      s.Sound ∧ p.state.Keeps s := ⟨hp.state.step h, .step h⟩
  cases o with
  | request => exact hstep (a := .request) rfl
  | call er => exact hstep (a := .spawn er) rfl
  | letStart n =>
    rcases h : p.taskAt? n with _ | i
    · simpa [Session.respond, h] using ⟨hp.state, State.Keeps.of_tasks rfl⟩
    · obtain ⟨t, ht, -⟩ := hp.task n i h
      simpa [Session.respond, h] using sound_letStart hp.state ht
  | send e => exact hstep (a := .send e) rfl
  | close => exact hstep (a := .close) rfl
  | cancel n =>
    rcases h : p.taskAt? n with _ | i
    · simpa [Session.respond, h] using ⟨hp.state, State.Keeps.of_tasks rfl⟩
    · simpa [Session.respond, h] using hstep (a := .cancel i) rfl
  | mark => exact hstep (a := .mark) rfl
  | unmark => exact hstep (a := .unmark) rfl
  | killWorker => exact hstep (a := .killWorker) rfl
  | wait ms =>
    obtain ⟨hr, -⟩ := run_respond_wait script hp.state ms
    exact ⟨hp.state.run hr, .run hr⟩

theorem spawn_task (s : State) (er : Errand) :
    ∃ t, (s.spawn er).tasks[s.tasks.length]? = some t ∧ t.errand = er := by
  cases er with
  | receive ms =>
    refine ⟨⟨.receive ms, .receiving [] true, some s.numbered⟩, ?_, rfl⟩
    show (s.close.tasks ++ [_])[_]? = _
    rw [← length_close s, List.getElem?_concat_length]
  | restartWorker | releaseClient | handle | shutdown => exact ⟨_, List.getElem?_concat_length, rfl⟩

theorem started_of_still (hf : s.Fit) (hst : s.Still script) (ht : t ∈ s.tasks) :
    t.stage ≠ .fresh := by
  intro hg
  have hb := ((still_iff_blocked hf).mp hst).1 t ht
  rw [hg] at hb
  exact hb

namespace Session.Sound

theorem follow (hp : p.Sound past) (o : Instruction) :
    Session.Sound (past ++ [o]) (p.follow script o) := by
  obtain ⟨hs, hk⟩ := sound_respond script hp o
  refine hp.next hs hk (fun i hi => ?_) (fun n i t hi hpolls ht => ?_)
  · cases o with
    | call er =>
      cases hi
      obtain ⟨t, ht, he⟩ := spawn_task p.state er
      exact ⟨t, ht, he ▸ rfl⟩
    | _ => cases hi
  · cases o with
    | letStart m =>
      cases hpolls
      simp only [Session.respond, hi, Option.elim_some] at ht
      exact ne_fresh_of_letStart hp.state ht
    | wait ms =>
      exact started_of_still hs.fit (run_respond_wait script hp.state ms).2
        (List.mem_of_getElem? ht)
    | _ => exact hpolls.elim

theorem skip (hp : p.Sound past) (ho : ∀ n, ¬o.Polls n) :
    Session.Sound (past ++ [o]) p.skip :=
  hp.next hp.state (.of_tasks rfl) nofun fun n _ _ _ h => absurd h (ho n)

theorem obey (hp : p.Sound past) {b : Bool} (hb : b = false → o.Idle past) :
    Session.Sound (past ++ [o]) (p.obey script b o) := by
  cases b with
  | true => exact hp.follow o
  | false => exact hp.skip (hb rfl).not_polls

end Session.Sound

/-! ## The core of a session -/

/-- What was answered before stays what it was. -/
theorem core_replies (hp : p.Sound past) (hk : p.state.Keeps s) :
    p.replies.map (·.bind (Reply.core? s)) = p.core.replies := by
  refine List.map_congr_left fun x hx => ?_
  rcases x with _ | _ | i
  · rfl
  · rfl
  · obtain ⟨n, hn⟩ := List.mem_iff_getElem?.mp hx
    obtain ⟨t, ht, -⟩ := hp.task n i (by rw [Session.taskAt?, hn])
    obtain ⟨t', ht', he, -⟩ := hk i t ht
    have hrank : s.rank i = p.state.rank i :=
      rank_congr (fun j u hu => (hk j u hu).imp fun _ h => ⟨h.1, h.2.1⟩)
        (Nat.le_of_lt (List.getElem?_eq_some_iff.mp ht).1)
    simp [Reply.core?, ht, ht', he, hrank]

theorem core_inner (hp : p.Sound past) (hk : p.state.Keeps s) :
    Session.core ⟨s, p.replies⟩ = ⟨s.core, p.core.replies⟩ :=
  congrArg (Session.mk s.core) (core_replies hp hk)

theorem core_next (hp : p.Sound past) (hk : p.state.Keeps s) :
    (p.next s r).core = ⟨s.core, p.core.replies ++ [r.bind (Reply.core? s)]⟩ := by
  show Session.mk s.core ((p.replies ++ [r]).map (·.bind (Reply.core? s))) = _
  rw [List.map_append, core_replies hp hk]
  rfl

/-- Which task of the core an instruction started. -/
theorem taskAt?_core (p : Session) (n : Nat) :
    p.core.taskAt? n = (p.taskAt? n).bind fun i => p.state.tasks[i]?.bind fun t =>
      if t.errand.forClient then none else some (p.state.rank i) := by
  have hr : p.core.replies[n]? = p.replies[n]?.map (·.bind (Reply.core? p.state)) :=
    List.getElem?_map
  rw [Session.taskAt?, Session.taskAt?, hr]
  rcases p.replies[n]? with _ | _ | _ | i
  · rfl
  · rfl
  · rfl
  · simp only [Option.map_some, Option.bind_some, Reply.core?]
    rcases p.state.tasks[i]? with _ | t
    · rfl
    · cases h : t.errand.forClient <;> simp [h]

theorem core_cancelAt (hp : p.Sound past) (n : Nat) :
    ((p.taskAt? n).elim p.state p.state.cancel).core =
      (p.core.taskAt? n).elim p.state.core p.state.core.cancel := by
  rw [taskAt?_core]
  rcases h : p.taskAt? n with _ | i
  · rfl
  · obtain ⟨t, ht, -⟩ := hp.task n i h
    cases hc : t.errand.forClient with
    | true => simpa [ht, hc] using core_cancel_same hp.state ht (.inl hc)
    | false => simpa [ht, hc] using core_cancel hp.state ht hc

theorem core_letStart (ht : s.tasks[i]? = some t) (hc : t.errand.forClient = false) :
    (s.letStart i).core = (s.core.letStart (s.rank i)).core := by
  have htc := tasks_core ht hc
  by_cases hg : t.stage = .fresh
  · rw [letStart_fresh ht hg, letStart_fresh htc (by rw [hg]; rfl)]
    exact core_startTask ht hc
  · have hgc : t.stage.core ≠ .fresh := by
      cases h : t.stage <;> first | exact absurd h hg | nofun
    rw [letStart_started ht hg, letStart_started htc hgc, core_core]

theorem core_letStart_same (hs : s.Sound) (ht : s.tasks[i]? = some t)
    (hc : t.errand.forClient = true) : (s.letStart i).core = s.core := by
  by_cases hg : t.stage = .fresh
  · have hm := mirrors_same hs ht (.inl hc)
    rw [poll_fresh ht hg] at hm
    rw [letStart_fresh ht hg]
    cases hm with
    | same h => exact h
  · rw [letStart_started ht hg]

theorem core_letStartAt (hp : p.Sound past) (n : Nat) :
    ((p.taskAt? n).elim p.state p.state.letStart).core =
      ((p.core.taskAt? n).elim p.state.core p.state.core.letStart).core := by
  rw [taskAt?_core]
  rcases h : p.taskAt? n with _ | i
  · exact (core_core p.state).symm
  · obtain ⟨t, ht, -⟩ := hp.task n i h
    cases hc : t.errand.forClient with
    | true => simpa [ht, hc] using core_letStart_same hp.state ht hc
    | false => simpa [ht, hc] using core_letStart ht hc

theorem reply_spawn (s : State) (er : Errand) :
    Reply.core? (s.spawn er) (.task s.tasks.length) =
      if er.forClient then none else some (.task s.core.tasks.length) := by
  obtain ⟨t, ht, rfl⟩ := spawn_task s er
  have hspawn : step ⟨[], []⟩ s (.spawn t.errand) = some (s.spawn t.errand) := rfl
  have hk : s.Keeps (s.spawn t.errand) := .step hspawn
  have hrank : (s.spawn t.errand).rank s.tasks.length = s.core.tasks.length :=
    (rank_congr (fun j u hu => (hk j u hu).imp fun _ h => ⟨h.1, h.2.1⟩) (Nat.le_refl _)).trans
      (rank_length s.tasks)
  simp [Reply.core?, ht, hrank]

theorem core_spawn_congr (hs : s.Sound) (hs' : s'.Sound) (h : s.core = s'.core) (er : Errand) :
    (s.spawn er).core = (s'.spawn er).core := by
  cases hc : er.forClient with
  | true => rw [core_spawn_client hs hc, core_spawn_client hs' hc, h]
  | false => rw [core_spawn hs hc, core_spawn hs' hc, h]

theorem core_send_congr (hs : s.Sound) (hs' : s'.Sound) (h : s.core = s'.core) (e : Build.Event) :
    (s.send e).core = (s'.send e).core := by
  cases ht : e.target with
  | server => rw [core_send hs ht, core_send hs' ht, h]
  | client => rw [core_send_client hs ht, core_send_client hs' ht, h]

theorem core_letGo (hs : s.Sound) (ms : Nat) : ((s.rest script).wait script ms).core =
    ((s.core.rest script).core.wait script ms).core := by
  rw [core_wait script (hs.rest script) (still_rest hs.fit), core_rest script hs]

/-- An instruction does the same to two states with the same core, and is answered the same. -/
theorem core_respond (script : Script) (hp : p.Sound past) (hq : q.Sound past)
    (h : p.core = q.core) (o : Instruction) :
    (p.respond script o).1.core = (q.respond script o).1.core ∧
      (p.respond script o).2.bind (Reply.core? (p.respond script o).1) =
        (q.respond script o).2.bind (Reply.core? (q.respond script o).1) := by
  have hs : p.state.core = q.state.core := congrArg Session.state h
  cases o with
  | request =>
    have ht : p.state.tracker = q.state.tracker := congrArg (fun s => s.tracker) hs
    refine ⟨?_, ?_⟩
    · show p.state.request.core = q.state.request.core
      rw [core_request, core_request, hs]
    · show some (Reply.ticket p.state.tracker.ticket) = some (.ticket q.state.tracker.ticket)
      rw [ht]
  | call er =>
    have hr := reply_spawn p.state er
    rw [hs] at hr
    exact ⟨core_spawn_congr hp.state hq.state hs er, hr.trans (reply_spawn q.state er).symm⟩
  | letStart n =>
    have hl := core_letStartAt hp n
    rw [h, hs] at hl
    exact ⟨hl.trans (core_letStartAt hq n).symm, rfl⟩
  | send e => exact ⟨core_send_congr hp.state hq.state hs e, rfl⟩
  | close =>
    refine ⟨?_, rfl⟩
    show p.state.close.core = q.state.close.core
    rw [core_close hp.state, core_close hq.state, hs]
  | cancel n =>
    have hc := core_cancelAt hp n
    rw [h, hs] at hc
    exact ⟨hc.trans (core_cancelAt hq n).symm, rfl⟩
  | mark =>
    refine ⟨?_, rfl⟩
    show ({ p.state with changed := true }.note .marked).core =
      ({ q.state with changed := true }.note .marked).core
    rw [core_mark, core_mark, hs]
  | unmark =>
    refine ⟨?_, rfl⟩
    show ({ p.state with changed := false }.note .unmarked).core =
      ({ q.state with changed := false }.note .unmarked).core
    rw [core_unmark, core_unmark, hs]
  | killWorker =>
    refine ⟨?_, rfl⟩
    show p.state.killWorker.core = q.state.killWorker.core
    rw [core_killWorker, core_killWorker, hs]
  | wait ms =>
    refine ⟨?_, rfl⟩
    show ((p.state.rest script).wait script ms).core = ((q.state.rest script).wait script ms).core
    rw [core_letGo hp.state, core_letGo hq.state, hs]

/-- An instruction does the same to two sessions with the same core. -/
theorem core_follow (hp : p.Sound past) (hq : q.Sound past) (h : p.core = q.core)
    (o : Instruction) : (p.follow script o).core = (q.follow script o).core := by
  obtain ⟨hs, hr⟩ := core_respond script hp hq h o
  rw [Session.follow, core_next hp (sound_respond script hp o).2, Session.follow,
    core_next hq (sound_respond script hq o).2, hs, hr, h]

theorem core_skip (hp : p.Sound past) : p.skip.core = ⟨p.state.core, p.core.replies ++ [none]⟩ :=
  core_next hp (.of_tasks rfl)

/-- An instruction of no consequence may as well be left out. -/
theorem core_follow_idle (hp : p.Sound past) (ho : o.Idle past) :
    (p.follow script o).core = p.skip.core := by
  rw [core_skip hp, Session.follow, core_next hp (sound_respond script hp o).2]
  cases o with
  | call er =>
    have hc : er.forClient = true := ho
    have hr := reply_spawn p.state er
    rw [if_pos hc] at hr
    exact congr (congrArg Session.mk (core_spawn_client hp.state hc))
      (congrArg (p.core.replies ++ [·]) hr)
  | send e => exact congrArg (Session.mk · _) (core_send_client hp.state ho)
  | cancel n =>
    refine congrArg (Session.mk · _) ?_
    show ((p.taskAt? n).elim p.state p.state.cancel).core = _
    rcases hi : p.taskAt? n with _ | i
    · rfl
    · obtain ⟨t, ht, hc, hw⟩ := hp.task n i hi
      obtain ⟨er, her, hidle⟩ := ho
      rw [hc] at her
      cases her
      exact core_cancel_same hp.state ht (hidle.imp_right fun h => ⟨h.1, hw h.2⟩)
  | request | letStart | close | mark | unmark | killWorker | wait => exact ho.elim

/-- **Whether an instruction of no consequence is left out makes no difference to the core.** -/
theorem core_obey (hp : p.Sound past) (hq : q.Sound past) (h : p.core = q.core) {b b' : Bool}
    (hb : b = false → o.Idle past) (hb' : b' = false → o.Idle past) :
    (p.obey script b o).core = (q.obey script b' o).core := by
  have hs : p.state.core = q.state.core := congrArg Session.state h
  have hskip : p.skip.core = q.skip.core := by rw [core_skip hp, core_skip hq, h, hs]
  cases b <;> cases b'
  · exact hskip
  · exact hskip.trans (core_follow_idle hq (hb rfl)).symm
  · exact (core_follow_idle hp (hb' rfl)).trans hskip
  · exact core_follow hp hq h o

end

end DevServer.Restart
