import DevServer.Proofs.Restart.Sessions
import Mathlib

/-!
# Waiting has no influence

Client builds, and cancellations of tasks that only wait, change nothing about restarts: the tickets
that requests are given, when restarts begin and end and how, the calls for workers, the updates
that are announced and the flag for a change that waits (`Session.Agrees`). That holds of the
session that follows a plan, and for every order in which things go on that can go on at the same
time (`Session.Runs`): a step in one session is some steps in the other (`inner_of_core`,
`run_lift`), so either can show whatever the other shows (`waiting_has_no_influence`).
-/

namespace DevServer.Restart

/-! ## Definitions -/

/-- Whether nothing comes from outside, and the clock moves as in a prompt run. -/
def State.alone (script : Script) (s : State) : Action → Bool
  | .pass ms => s.prompt script (.pass ms)
  | a => a.isInner

section
variable (script : Script) (kept : Nat → Bool)

/-- How the instructions of a plan may be followed, but for those that are not `kept`: things go on
in any order. -/
inductive Session.Runs : List Instruction → Session → Prop where
  | new : Runs [] .new
  | go {plan : List Instruction} {p : Session} {a : Action} {s : State} (h : Runs plan p)
    (ha : a.isInner = true) (hs : step script p.state a = some s) : Runs plan ⟨s, p.replies⟩
  | obey {plan : List Instruction} {p : Session} {o : Instruction} (h : Runs plan p)
    (ho : ∀ ms, o ≠ .wait ms) : Runs (plan ++ [o]) (p.obey script (kept plan.length) o)
  | wait {plan : List Instruction} {p : Session} {ms : Nat} {s : State} (h : Runs plan p)
    (hk : kept plan.length = true) (hr : Run script (State.alone script) p.state s)
    (hst : s.Still script) (hn : s.now = p.state.now + ms) :
    Runs (plan ++ [.wait ms]) (p.next s none)

end

/-- What two sessions agree in, whoever else waits. -/
structure Session.Agrees (p q : Session) : Prop where
  now : p.state.now = q.state.now
  tickets : ∀ n k : Nat, p.replies[n]? = some (some (.ticket k)) ↔
    q.replies[n]? = some (some (.ticket k))
  history : p.state.history.core = q.state.history.core
  tracker : p.state.tracker = q.state.tracker
  changed : p.state.changed = q.state.changed

section
variable {script : Script} {s s' t : State} {a : Action} {p q : Session}
  {plan : List Instruction} {kept kept' : Nat → Bool}

/-! ## Steps of one session in another -/

theorem letsGo_alone : LetsGo script (State.alone script) where
  inner := fun _ a ha => by cases a <;> first | rfl | cases ha
  pass := fun _ _ h => h

/-- A step from within is nothing to the core, or one of the core. -/
theorem core_of_inner (hs : s.Sound) (ha : a.isInner = true) (h : step script s a = some s') :
    s'.core = s.core ∨
      ∃ b c, b.isInner = true ∧ step script s.core b = some c ∧ c.core = s'.core := by
  cases a with
  | poll i =>
    have hp : s.poll i = some s' := h
    obtain ⟨t, ht, -⟩ := polled h
    cases hc : t.errand.forClient with
    | true =>
      have hm := mirrors_same hs ht (.inl hc)
      rw [hp] at hm
      cases hm with
      | same h => exact .inl h
    | false =>
      have hm := mirrors_poll hs ht hc
      rw [hp] at hm
      generalize hcp : s.core.poll (s.rank i) = m at hm
      cases hm with
      | same h => exact .inl h
      | both h => exact .inr ⟨.poll (s.rank i), _, rfl, hcp, h⟩
  | claim n =>
    have hc := core_claim s n
    rw [show s.claim n = some s' from h] at hc
    exact .inr ⟨.claim n, s'.core, rfl, hc.symm, core_core s'⟩
  | turn =>
    have hc := core_turn script hs
    rw [show s.turn script = some s' from h] at hc
    obtain ⟨c, hcs, hcc⟩ := Option.map_eq_some_iff.mp hc.symm
    exact .inr ⟨.turn, c, rfl, hcs, hcc⟩
  | _ => cases ha

theorem exists_rank {l : List Task} {r : Nat} {u : Task}
    (h : (l.filterMap Task.core?)[r]? = some u) :
    ∃ i t, l[i]? = some t ∧ t.errand.forClient = false ∧ rank l i = r := by
  induction l generalizing r with
  | nil => cases h
  | cons v l ih =>
    cases hv : v.errand.forClient with
    | true =>
      rw [List.filterMap_cons, Task.core?_of_client hv] at h
      obtain ⟨i, t, ht, hc, hr⟩ := ih h
      exact ⟨i + 1, t, ht, hc, by simpa [rank, hv] using hr⟩
    | false =>
      rw [List.filterMap_cons, Task.core?_of_not_client hv] at h
      cases r with
      | zero => exact ⟨0, v, rfl, hv, rfl⟩
      | succ r =>
        obtain ⟨i, t, ht, hc, hr⟩ := ih h
        exact ⟨i + 1, t, ht, hc, by simpa [rank, hv] using hr⟩

/-- A step of the core takes some steps of the state: a loop may have events of client builds before
the one that it takes. -/
theorem inner_of_core {t c : State} {a : Action} (ht : t.Sound) (ha : a.isInner = true)
    (h : step script t.core a = some c) :
    ∃ t', Run script (fun _ a => a.isInner) t t' ∧ t'.core = c.core := by
  cases a with
  | poll r =>
    have hp : t.core.poll r = some c := h
    obtain ⟨u, hu, -⟩ := polled h
    obtain ⟨i, v, hi, hc, rfl⟩ := exists_rank hu
    have hm := mirrors_poll ht hi hc
    rw [show t.core.poll (t.rank i) = some c from hp] at hm
    generalize htp : t.poll i = m at hm
    cases hm with
    | @same t₁ _ h₁ =>
      have hstep : step script t (.poll i) = some t₁ := htp
      have hw : t₁.work < t.work := work_lt ht.fit rfl hstep
      obtain ⟨t', hr, ht'⟩ := inner_of_core (ht.step hstep) ha (h₁ ▸ h)
      exact ⟨t', (Run.single rfl hstep).trans hr, ht'⟩
    | @both t₁ _ h₁ => exact ⟨t₁, .single (a := .poll i) rfl htp, h₁.symm⟩
  | claim n =>
    have hc := core_claim t n
    rw [show t.core.claim n = some c from h] at hc
    obtain ⟨t₁, ht₁, rfl⟩ := Option.map_eq_some_iff.mp hc
    exact ⟨t₁, .single (a := .claim n) rfl ht₁, (core_core t₁).symm⟩
  | turn =>
    have hc := core_turn script ht
    rw [show t.core.turn script = some c from h] at hc
    obtain ⟨t₁, ht₁, h₁⟩ := Option.map_eq_some_iff.mp hc
    exact ⟨t₁, .single (a := .turn) rfl ht₁, h₁⟩
  | _ => cases ha
termination_by t.work

theorem inner_lift (hs : s.Sound) (ht : t.Sound) (h : s.core = t.core) (ha : a.isInner = true)
    (hstep : step script s a = some s') :
    ∃ t', Run script (fun _ a => a.isInner) t t' ∧ t'.core = s'.core := by
  rcases core_of_inner hs ha hstep with hsame | ⟨b, c, hb, hc, hcs⟩
  · exact ⟨t, .refl, h.symm.trans hsame.symm⟩
  · obtain ⟨t', hr, ht'⟩ := inner_of_core ht hb (h ▸ hc)
    exact ⟨t', hr, ht'.trans hcs⟩

theorem Run.alone (hr : Run script (fun _ a => a.isInner) s s') :
    Run script (State.alone script) s s' :=
  hr.mono fun s a ha => letsGo_alone.inner s a ha

/-- What still goes on when nothing can go on in the core is nothing to it. -/
theorem core_rest_of_still (ht : t.Sound) (hst : t.core.Still script) :
    (t.rest script).core = t.core := by
  rw [core_rest script ht, rest_of_still hst, core_core]

/-- A time in which nothing is due in the core. -/
theorem pass_lift (hs : s.Sound) (ht : t.Sound) (h : s.core = t.core) {ms : Nat}
    (hp : s.prompt script (.pass ms) = true) :
    ∃ t', Run script (State.alone script) t t' ∧
      t'.core = State.core { s with now := s.now + ms } := by
  rw [State.prompt, Bool.and_eq_true, List.all_eq_true, Option.isNone_iff_eq_none] at hp
  obtain ⟨hst, hdue⟩ := hp
  have hcst : t.core.Still script := h ▸ still_core hs hst
  have hrest : (t.rest script).core = t.core := core_rest_of_still ht hcst
  have hrun : Run script (State.alone script) t (t.rest script) := run_rest letsGo_alone t
  have hnow : t.now = s.now := (congrArg State.now h).symm
  have hd (e : Nat) (he : e ∈ t.core.deadlines) (hlt : t.now < e) : s.now + ms ≤ e := by
    have := hdue e (deadline_of_core (h ▸ he))
    simp only [Bool.or_eq_true, decide_eq_true_eq] at this
    omega
  rcases ms with _ | m
  · exact ⟨t.rest script, hrun, hrest.trans h.symm⟩
  · -- whatever else is due comes before the last moment, at which nothing needs to go on
    have hsr := ht.rest script
    have hstr : (t.rest script).Still script := still_rest ht.fit
    have hle : (t.rest script).now ≤ s.now + m := by rw [now_rest, hnow]; omega
    obtain ⟨hr, hsu, hn⟩ := run_till letsGo_alone hsr.fit hstr hle
    have hidle : ∀ e ∈ (t.rest script).core.deadlines, (t.rest script).now < e → s.now + m < e := by
      rw [hrest, now_rest]
      exact hd
    have hcore := core_till_idle script hsr hstr hle hidle
    rw [hrest] at hcore
    obtain ⟨u, hu⟩ : ∃ u, u = (t.rest script).till script (s.now + m) := ⟨_, rfl⟩
    rw [← hu] at hr hsu hn hcore
    have hpass : State.alone script u (.pass 1) = true := by
      rw [State.alone, State.prompt, Bool.and_eq_true, List.all_eq_true, Option.isNone_iff_eq_none]
      refine ⟨hsu, fun e _ => ?_⟩
      simp only [Bool.or_eq_true, decide_eq_true_eq]
      omega
    refine ⟨{ u with now := u.now + 1 }, (hrun.trans hr).next hpass rfl, ?_⟩
    show { u.core with now := u.now + 1 } = { s.core with now := s.now + (m + 1) }
    rw [hcore, hn, h]
    rfl

theorem run_lift (hs : s.Sound) (ht : t.Sound) (h : s.core = t.core)
    (hr : Run script (State.alone script) s s') :
    ∃ t', Run script (State.alone script) t t' ∧ t'.core = s'.core := by
  induction hr with
  | refl => exact ⟨t, .refl, h.symm⟩
  | @next s₁ s₂ a hr ha hstep ih =>
    obtain ⟨t₁, hrt, ht₁⟩ := ih
    have hs₁ := hs.run hr
    have hst₁ := ht.run hrt
    by_cases hp : ∃ ms, a = .pass ms
    · obtain ⟨ms, rfl⟩ := hp
      cases hstep
      obtain ⟨t₂, hrt₂, ht₂⟩ := pass_lift hs₁ hst₁ ht₁.symm ha
      exact ⟨t₂, hrt.trans hrt₂, ht₂⟩
    · have hin : a.isInner = true := by
        cases a with
        | pass ms => exact absurd ⟨ms, rfl⟩ hp
        | _ => exact ha
      obtain ⟨t₂, hrt₂, ht₂⟩ := inner_lift hs₁ hst₁ ht₁.symm hin hstep
      exact ⟨t₂, hrt.trans hrt₂.alone, ht₂⟩

/-! ## Plans -/

theorem Spares.of_concat {o : Instruction} (h : Spares kept (plan ++ [o])) :
    Spares kept plan ∧ (kept plan.length = false → o.Idle plan) := by
  constructor
  · intro i x hx hk
    have hi := (List.getElem?_eq_some_iff.mp hx).1
    have := h i x (by rw [List.getElem?_append_left hi, hx]) hk
    rwa [List.take_append_of_le_length (Nat.le_of_lt hi)] at this
  · intro hk
    have := h plan.length o List.getElem?_concat_length hk
    rwa [List.take_left] at this

theorem spares_all (plan : List Instruction) : Spares (fun _ => true) plan := nofun

namespace Session.Runs

theorem sound (hr : Runs script kept plan p) (hk : Spares kept plan) : p.Sound plan := by
  induction hr with
  | new => exact .new
  | go h ha hs ih => exact (ih hk).inner ((ih hk).state.step hs) (.step hs)
  | obey h _ ih => exact (ih hk.of_concat.1).obey hk.of_concat.2
  | @wait plan p ms s h _ hr hst hn ih =>
    have hp := ih hk.of_concat.1
    have hs := hp.state.run hr
    exact hp.next hs (.run hr) nofun fun _ _ _ _ _ ht =>
      started_of_still hs.fit hst (List.mem_of_getElem? ht)

theorem run (hr : Runs script kept plan p) (hs : Run script (fun _ a => a.isInner) p.state s) :
    Runs script kept plan ⟨s, p.replies⟩ := by
  induction hs with
  | refl => exact hr
  | next _ ha hstep ih => exact ih.go ha hstep

/-- **Whatever a session can show, it can show without those who only wait**, and with them. -/
theorem alike (hr : Runs script kept plan p) (hk : Spares kept plan) (hk' : Spares kept' plan) :
    ∃ q, Runs script kept' plan q ∧ p.core = q.core := by
  induction hr with
  | new => exact ⟨.new, .new, rfl⟩
  | @go plan p a s h ha hs ih =>
    obtain ⟨q, hq, hpq⟩ := ih hk hk'
    have hps := h.sound hk
    have hqs := hq.sound hk'
    obtain ⟨t, hrt, ht⟩ := inner_lift hps.state hqs.state (congrArg Session.state hpq) ha hs
    refine ⟨⟨t, q.replies⟩, hq.run hrt, ?_⟩
    rw [core_inner hps (.step hs), core_inner hqs (.run hrt), ht, hpq]
  | @obey plan p o h ho ih =>
    obtain ⟨hk, hidle⟩ := hk.of_concat
    obtain ⟨hk', hidle'⟩ := hk'.of_concat
    obtain ⟨q, hq, hpq⟩ := ih hk hk'
    exact ⟨_, hq.obey ho, core_obey (h.sound hk) (hq.sound hk') hpq hidle hidle'⟩
  | @wait plan p ms s h _ hr hst hn ih =>
    obtain ⟨hk, -⟩ := hk.of_concat
    obtain ⟨hk', hidle'⟩ := hk'.of_concat
    have hb : kept' plan.length = true := Bool.of_not_eq_false hidle'
    obtain ⟨q, hq, hpq⟩ := ih hk hk'
    have hps := h.sound hk
    have hqs := hq.sound hk'
    have hs : p.state.core = q.state.core := congrArg Session.state hpq
    obtain ⟨t, hrt, ht⟩ := run_lift hps.state hqs.state hs hr
    -- in the other session something may be left to do that is nothing to the core
    have hts := hqs.state.run hrt
    have hrest : (t.rest script).core = s.core := by
      rw [core_rest_of_still hts (ht ▸ still_core (hps.state.run hr) hst), ht]
    have hrun := hrt.trans (run_rest letsGo_alone t)
    have hnow : (t.rest script).now = q.state.now + ms := by
      have h₁ : (t.rest script).core.now = s.core.now := by rw [hrest]
      have h₂ : p.state.core.now = q.state.core.now := by rw [hs]
      exact h₁.trans (hn.trans (congrArg (· + ms) h₂))
    refine ⟨_, hq.wait hb hrun (still_rest hts.fit) hnow, ?_⟩
    rw [core_next hps (.run hr), core_next hqs (.run hrun), hrest, hpq]
    rfl

end Session.Runs

theorem play_concat (script : Script) (kept : Nat → Bool) (p : Session) (plan : List Instruction)
    (o : Instruction) : p.play script kept (plan ++ [o]) =
      (p.play script kept plan).obey script (kept (p.play script kept plan).replies.length) o := by
  rw [Session.play, List.foldl_append]
  rfl

/-- Following a plan is one way to follow it. -/
theorem runs_play (script : Script) (h : Spares kept plan) :
    Session.Runs script kept plan (Session.new.play script kept plan) := by
  induction plan using List.reverseRecOn with
  | nil => exact .new
  | append_singleton plan o ih =>
    obtain ⟨h, hidle⟩ := h.of_concat
    have ih := ih h
    have hs := ih.sound h
    rw [play_concat, hs.length]
    by_cases hw : ∃ ms, o = .wait ms
    · obtain ⟨ms, rfl⟩ := hw
      have hb : kept plan.length = true := Bool.of_not_eq_false hidle
      have hst : ((Session.new.play script kept plan).state.rest script).Still script :=
        still_rest hs.state.fit
      obtain ⟨hr, hst, hn⟩ := run_wait letsGo_alone (hs.state.rest script).fit hst ms
      rw [now_rest] at hn
      rw [hb]
      exact ih.wait hb ((run_rest letsGo_alone _).trans hr) hst hn
    · exact ih.obey fun ms hms => hw ⟨ms, hms⟩

theorem core_play (script : Script) (hk : Spares kept plan) (hk' : Spares kept' plan) :
    (Session.new.play script kept plan).core = (Session.new.play script kept' plan).core := by
  induction plan using List.reverseRecOn with
  | nil => rfl
  | append_singleton plan o ih =>
    obtain ⟨hk, hidle⟩ := hk.of_concat
    obtain ⟨hk', hidle'⟩ := hk'.of_concat
    have hps := (runs_play script hk).sound hk
    have hqs := (runs_play script hk').sound hk'
    rw [play_concat, play_concat, hps.length, hqs.length]
    exact core_obey hps hqs (ih hk hk') hidle hidle'

/-! ## What sessions agree in -/

theorem ticket_core (p : Session) (n k : Nat) :
    p.core.replies[n]? = some (some (.ticket k)) ↔ p.replies[n]? = some (some (.ticket k)) := by
  have hr : p.core.replies[n]? = p.replies[n]?.map (·.bind (Reply.core? p.state)) :=
    List.getElem?_map
  rw [hr]
  rcases p.replies[n]? with _ | _ | _ | i
  · simp
  · simp
  · simp [Reply.core?]
  · simp only [Option.map_some, Option.bind_some, Reply.core?, Option.some.injEq, reduceCtorEq,
      iff_false]
    rcases p.state.tasks[i]? with _ | t
    · simp
    · cases h : t.errand.forClient <;> simp [h]

theorem Session.Agrees.of_core (h : p.core = q.core) : p.Agrees q := by
  have hs : p.state.core = q.state.core := congrArg Session.state h
  have hnow : p.state.core.now = q.state.core.now := by rw [hs]
  have hhistory : p.state.core.history = q.state.core.history := by rw [hs]
  have htracker : p.state.core.tracker = q.state.core.tracker := by rw [hs]
  have hchanged : p.state.core.changed = q.state.core.changed := by rw [hs]
  exact ⟨hnow, fun n k => by rw [← ticket_core p, ← ticket_core q, h], hhistory, htracker, hchanged⟩

theorem Spares.take (h : Spares kept plan) (k : Nat) : Spares kept (plan.take k) := by
  intro i o ho hk
  rw [List.getElem?_take] at ho
  split at ho
  · next hi =>
    rw [List.take_take, Nat.min_eq_left (Nat.le_of_lt hi)]
    exact h i o ho hk
  · cases ho

/-- **Whoever only waits has no influence on restarts.** Leaving out client builds, and
cancellations of tasks that only wait, from a plan changes nothing of a restart: neither after any
of the instructions, nor a time later, nor for any order in which things go on. -/
theorem waiting_has_no_influence (script : Script) (h : Spares kept plan) :
    (∀ k, (Session.new.play script (fun _ => true) (plan.take k)).Agrees
        (Session.new.play script kept (plan.take k)) ∧
      ∀ ms,
        ((Session.new.play script (fun _ => true) (plan.take k)).follow script (.wait ms)).Agrees
          ((Session.new.play script kept (plan.take k)).follow script (.wait ms))) ∧
    (∀ p, Session.Runs script (fun _ => true) plan p →
      ∃ q, Session.Runs script kept plan q ∧ p.Agrees q) ∧
    ∀ q, Session.Runs script kept plan q →
      ∃ p, Session.Runs script (fun _ => true) plan p ∧ p.Agrees q := by
  refine ⟨fun k => ?_, fun p hp => ?_, fun q hq => ?_⟩
  · have hk := h.take k
    have hall := spares_all (plan.take k)
    have hcore := core_play script hall hk
    have hps := (runs_play script hall).sound hall
    have hqs := (runs_play script hk).sound hk
    exact ⟨.of_core hcore, fun ms => .of_core (core_follow hps hqs hcore (.wait ms))⟩
  · obtain ⟨q, hq, hpq⟩ := hp.alike (spares_all plan) h
    exact ⟨q, hq, .of_core hpq⟩
  · obtain ⟨p, hp, hqp⟩ := hq.alike h (spares_all plan)
    exact ⟨p, hp, .of_core hqp.symm⟩

/-- A client build waits for the restart that a server build has asked for, and the server build's
caller goes. Without either the server build's caller is told, nobody waits, and the restarts are
the same. -/
theorem waiting_has_no_influence_dropped_caller : ∃ (plan : List Instruction) (kept : Nat → Bool),
    plan = [.call .restartWorker, .wait 100, .call (.releaseClient 1000), .cancel 0, .wait 2000,
      .request, .wait 1000] ∧ (∀ i, kept i = false ↔ i = 2 ∨ i = 3) ∧ Spares kept plan ∧
    (Session.new.play ⟨[], []⟩ (fun _ => true) plan).Agrees (Session.new.play ⟨[], []⟩ kept plan) ∧
    (Session.new.play ⟨[], []⟩ (fun _ => true) plan).state.history =
      [(0, .requested 1 false), (0, .began 1 false), (0, .startCalled 1), (100, .clientWaits 1),
        (500, .startReturned 1 .ready), (500, .ended 1 .succeeded),
        (1500, .taskEnded 1 (.afterRestart .succeeded)), (2100, .requested 2 false),
        (2100, .began 2 false), (2100, .stopCalled (.restart 2) 1),
        (2150, .stopReturned (.restart 2) 1 none), (2150, .startCalled 2),
        (2650, .startReturned 2 .ready), (2650, .ended 2 .succeeded)] ∧
    (Session.new.play ⟨[], []⟩ kept plan).state.history =
      [(0, .requested 1 false), (0, .began 1 false), (0, .startCalled 1),
        (500, .startReturned 1 .ready), (500, .ended 1 .succeeded),
        (500, .taskEnded 0 (.restarted .succeeded)), (2100, .requested 2 false),
        (2100, .began 2 false), (2100, .stopCalled (.restart 2) 1),
        (2150, .stopReturned (.restart 2) 1 none), (2150, .startCalled 2),
        (2650, .startReturned 2 .ready), (2650, .ended 2 .succeeded)] := by
  have hspares : Spares (fun i => i != 2 && i != 3) [.call .restartWorker, .wait 100,
      .call (.releaseClient 1000), .cancel 0, .wait 2000, .request, .wait 1000] := by
    intro i o ho hk
    have hi : i = 2 ∨ i = 3 := by
      simp only [Bool.and_eq_false_iff, bne_eq_false_iff_eq] at hk
      exact hk
    rcases hi with rfl | rfl
    · cases ho
      rfl
    · cases ho
      exact ⟨.restartWorker, rfl, .inr ⟨rfl, .wait 100, by simp, trivial⟩⟩
  refine ⟨_, fun i => i != 2 && i != 3, rfl, fun i => ?_, hspares,
    ((waiting_has_no_influence ⟨[], []⟩ hspares).1 7).1, by cbv, by cbv⟩
  simp only [Bool.and_eq_false_iff, bne_eq_false_iff_eq]

end

end DevServer.Restart
