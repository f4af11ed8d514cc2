import DevServer.Proofs.Restart.ClientAnnouncements
import DevServer.Proofs.Restart.Dispatch
import Mathlib.Data.List.Basic

/-!
# Every build event is handled once

`Logged script s l` is a run to the state `s` with the account `l` of its build events. No step
loses an event or begins two tasks for one (`dealt_step`), so every event that a channel accepted
gets one task, in the order in which they were accepted, and once all events have been dealt with,
the client builds that were announced are those that succeeded (`events_handled_once`).
-/

namespace DevServer.Restart

/-- The client build that browsers are told of. -/
def Happening.told? : Happening → Option Nat
  | published (.clientBuilt build) => some build
  | _ => none

namespace History

/-- The client builds that browsers have been told of. -/
def told (h : History) : List Nat := h.filterMap (·.2.told?)

@[simp] theorem told_append (h k : History) : told (h ++ k) = h.told ++ k.told :=
  List.filterMap_append

theorem told_quiet {h : History} {x : Nat × Happening} (hx : x.2.told? = none) :
    told (h ++ [x]) = h.told := by
  have hnil : told [x] = [] := List.filterMap_cons_none hx
  rw [told_append, hnil, List.append_nil]

theorem told_pair (h : History) (x y : Nat × Happening) :
    told ((h ++ [x]) ++ [y]) = h.told ++ told [x, y] := by
  rw [List.append_assoc]
  exact told_append ..

theorem told_eq_nil {k : History} (h : ∀ t x, (t, x) ∈ k → x.told? = none) : k.told = [] :=
  List.filterMap_eq_nil_iff.mpr fun x hx => h x.1 x.2 hx

end History

/-- What the account is after a step from `s`. -/
def Intake.after (l : Intake) (s : State) : Action → Intake
  | .spawn er => l.give er
  | .send e =>
    match s.inbox with
    | some i => if s.accepts then l.accept i e else l
    | none => l
  | .poll i =>
    match s.stage? i with
    | some (.receiving (e :: _) _) => l.begin ⟨i, s.tasks.length, e⟩
    | _ => l
  | .request | .close | .cancel _ | .mark | .unmark | .killWorker | .pass _ | .claim _ | .turn => l

/-- A run to `s`, with the account of its events. -/
inductive Logged (script : Script) : State → Intake → Prop where
  | new : Logged script .new .empty
  | step {s s' : State} {l : Intake} {a : Action} (h : Logged script s l)
    (hs : Restart.step script s a = some s') : Logged script s' (l.after s a)

/-- The account after some actions. -/
def Intake.along (script : Script) (l : Intake) (s : State) : List Action → Intake
  | [] => l
  | a :: as =>
    match Restart.step script s a with
    | some s' => (l.after s a).along script s' as
    | none => l

theorem Logged.along {script : Script} {s s' : State} {l : Intake} {as : List Action}
    (h : Logged script s l) (hf : s.follow? script anyAction as = some s') :
    Logged script s' (l.along script s as) := by
  induction as generalizing s l with
  | nil => cases hf; exact h
  | cons a as ih =>
    simp only [State.follow?, anyAction, ↓reduceIte] at hf
    obtain ⟨s₁, hs, hf⟩ := Option.bind_eq_some_iff.mp hf
    rw [Intake.along, hs]
    exact ih (h.step hs) hf

/-! ## Steps -/

section
variable {script : Script} {s s' : State} {l : Intake} {i : Nat} {t : Task}

/-- The task that the channel belongs to. -/
theorem State.Fit.inbox (h : s.Fit) (hi : s.inbox = some i) {es : List Build.Event} {isOpen : Bool}
    (hg : s.inbox.bind s.stage? = some (.receiving es isOpen)) :
    ∃ t ms, s.tasks[i]? = some t ∧ t.errand = .receive ms ∧ t.stage = .receiving es isOpen := by
  rw [hi] at hg
  obtain ⟨t, ht, hg⟩ := Option.map_eq_some_iff.mp (show s.stage? i = _ from hg)
  have hf := h t (List.mem_of_getElem? ht)
  rw [hg] at hf
  obtain ⟨ms, he⟩ := hf
  exact ⟨t, ms, ht, he, hg⟩

theorem dealt_close (h : s.Fit) (l : Intake) : Dealt s.tasks l [] s.close.tasks l := by
  unfold State.close
  split
  · next i es hi hg =>
    obtain ⟨t, ms, ht, he, hst⟩ := h.inbox hi hg
    refine .shift fun u hu => ?_
    obtain rfl := Option.some.inj (ht.symm.trans hu)
    exact ⟨.inr (by rw [Task.queue, Task.queue, hst]), fun _ _ => by simp [hst],
      by simp [Task.told?, hst], fun hf => by simp [Task.handlesFailure_of_receive he] at hf⟩
  · exact .refl ..

theorem dealt_send (h : s.Fit) (l : Intake) (e : Build.Event) :
    Dealt s.tasks l [] (s.send e).tasks (l.after s (.send e)) := by
  unfold State.send
  split
  · next i es hi hg =>
    obtain ⟨t, ms, ht, he, hst⟩ := h.inbox hi hg
    have ha : s.accepts = true := by rw [State.accepts, hg]
    have hl : l.after s (.send e) = l.accept i e := by simp [Intake.after, hi, ha]
    rw [hl]
    exact .accept ht he hst e
  · next hno =>
    have hl : l.after s (.send e) = l := by
      unfold Intake.after
      cases hi : s.inbox with
      | none => rfl
      | some i =>
        refine if_neg fun ha => ?_
        unfold State.accepts at ha
        split at ha
        · next es isOpen hg => exact hno i es hi (by rw [hg, ha])
        · cases ha
    rw [hl]
    exact .refl ..

theorem dealt_spawn (h : s.Fit) (l : Intake) (er : Errand) :
    Dealt s.tasks l [] (s.spawn er).tasks (l.give er) := by
  cases er with
  | receive ms => exact (dealt_close h l).trans (.spawn _ (.inr ⟨⟨ms, rfl⟩, rfl⟩))
  | restartWorker | releaseClient | handle | shutdown => exact .spawn _ (.inl rfl)

theorem dealt_cancel (l : Intake) (i : Nat) : Dealt s.tasks l [] (s.cancel i).tasks l := by
  unfold State.cancel
  split
  · next g hg =>
    split
    · exact .refl ..
    · next ho =>
      obtain ⟨t, ht, rfl⟩ := Option.map_eq_some_iff.mp hg
      refine .shift fun u hu => ?_
      obtain rfl := Option.some.inj (ht.symm.trans hu)
      have hnone : t.told? = none := Task.told?_of_not_isOver (Bool.eq_false_iff.mpr ho)
      exact ⟨.inl rfl, fun _ _ hc => ho (by rw [hc]; rfl), hnone.symm, fun _ => rfl⟩
  · exact .refl ..

/-- Whoever has the slot ends no task but a shutdown's. -/
theorem Turned.dealt {hs : List Happening} (h : Turned script s hs s') (hr : Reachable script s)
    (l : Intake) : Dealt s.tasks l [] s'.tasks l := by
  have hsame (ht : s'.tasks = s.tasks) : Dealt s.tasks l [] s'.tasks l := by
    rw [ht]; exact .refl ..
  have hend {x : Claim} {rest : List Claim} {task : Nat} (hl : s.line = x :: rest)
      (hx : x.owner = .shutdown task) : Dealt s.tasks l []
        (s.tasks.modify task ({ · with stage := .ended .shutDown })) l := by
    obtain ⟨t, ht, he⟩ := hr.claimant x (by rw [hl]; exact List.mem_cons_self ..) task hx
    refine .shift fun u hu => ?_
    obtain rfl := Option.some.inj (ht.symm.trans hu)
    have hev : t.event? = none := by simp [Task.event?, he]
    have hfit := hr.fit t (List.mem_of_getElem? ht)
    have hno (ms : Nat) : t.errand ≠ .receive ms := by simp [he]
    refine ⟨.inr ?_, fun ms her => absurd her (hno ms), ?_, fun _ => rfl⟩
    · rw [Task.queue, Task.queue]
      cases hst : t.stage <;> simp_all [Errand.Fits]
    · have hnone : t.told? = none := by
        rw [Task.told?, hev]
        cases t.stage <;> rfl
      rw [hnone]
      show t.event?.bind clientBuild? = none
      rw [hev]
      rfl
  cases h with
  | skip | stopPrevious | startFirst | startNext | stopLast => exact hsame rfl
  | install | fail | panic => exact hsame (tasks_startReturned ..)
  | nothingToStop hl | stopped hl => exact hend hl rfl

theorem told_stamp {hs : List Happening} (h : ∀ x ∈ hs, x.told? = none) (u : Nat) :
    History.told (hs.map (u, ·)) = [] :=
  History.told_eq_nil fun _ x hx => h x (History.mem_stamp.mp hx).2

theorem Happening.told?_of_atSlot {x : Happening} (h : x.atSlot = true) : x.told? = none := by
  cases x with
  | published e => cases e <;> first | rfl | cases h
  | _ => rfl

theorem clientBuild?_eq {e : Build.Event} (hs : e.success = true) (ht : e.target = .client) :
    clientBuild? e = some e.build := by
  simp [clientBuild?, hs, ht]

theorem Intake.after_poll_cons {e : Build.Event} {es : List Build.Event} {isOpen : Bool}
    (h : s.stage? i = some (.receiving (e :: es) isOpen)) :
    l.after s (.poll i) = l.begin ⟨i, s.tasks.length, e⟩ := by
  simp only [Intake.after, h]

/-- No event is taken when a task goes on that has none in its channel. -/
theorem Intake.after_poll (ht : s.tasks[i]? = some t)
    (hl : ∀ e es isOpen, t.stage ≠ .receiving (e :: es) isOpen) : l.after s (.poll i) = l := by
  have hst : s.stage? i = some t.stage := by rw [State.stage?, ht]; rfl
  simp only [Intake.after, hst]
  split
  · next e es isOpen hg => exact absurd (Option.some.inj hg) (hl e es isOpen)
  · rfl

section
variable {er : Errand} {g₀ g : Stage} {number : Option Nat}

/-- The task goes on to another stage, and neither takes an event nor announces a build. -/
theorem dealt_stage (ht : s.tasks[i]? = some ⟨er, g₀, number⟩)
    (hl : ∀ e es isOpen, g₀ ≠ .receiving (e :: es) isOpen)
    (hq : Task.queue ⟨er, g₀, number⟩ = Task.queue ⟨er, g, number⟩) (hc : g₀ ≠ .cancelled)
    (htold : Task.told? ⟨er, g, number⟩ = Task.told? ⟨er, g₀, number⟩)
    (hfail : Task.handlesFailure ⟨er, g₀, number⟩ = true → g.isOver = true) :
    Dealt s.tasks l [] (s.tasks.modify i ({ · with stage := g })) (l.after s (.poll i)) := by
  rw [Intake.after_poll ht hl]
  refine .shift fun u hu => ?_
  obtain rfl := Option.some.inj (ht.symm.trans hu)
  exact ⟨.inr hq.symm, fun _ _ => hc, htold, hfail⟩

/-- The task announces its build. -/
theorem dealt_announce {e : Build.Event} {ms : Nat}
    (ht : s.tasks[i]? = some ⟨.handle e ms, g₀, number⟩)
    (hl : ∀ e es isOpen, g₀ ≠ .receiving (e :: es) isOpen) (ho : g₀.isOver = false)
    (hs : e.success = true) (htar : e.target = .client) :
    Dealt s.tasks l [e.build] (s.tasks.modify i ({ · with stage := .ended .handled }))
      (l.after s (.poll i)) := by
  rw [Intake.after_poll ht hl]
  exact .announce ht rfl ho (clientBuild?_eq hs htar)

end

/-- A task that goes on announces its own build, or begins a task for the next event, or neither. -/
theorem Polled.dealt (h : Polled s i t.errand t.stage s') (hr : Reachable script s)
    (ht : s.tasks[i]? = some t)
    (hf : t.handlesFailure = true → t.stage = .fresh ∨ t.stage.isOver = true) (l : Intake) :
    ∃ bs, Dealt s.tasks l bs s'.tasks (l.after s (.poll i)) ∧
      s'.history.told = s.history.told ++ bs := by
  have hfit := hr.fit t (List.mem_of_getElem? ht)
  obtain ⟨er, g₀, number⟩ := t
  cases h with
  | request | restarted | shutDown | pass | released =>
    exact ⟨[], dealt_stage ht (by simp) rfl (by simp) rfl (fun h => by cases h), History.told_append ..⟩
  | @hold _ ms n hm =>
    refine ⟨[], dealt_stage ht (by simp) rfl (by simp) rfl fun hfail => ?_, History.told_append ..⟩
    cases er with
    | handle e ms => simp [Task.handlesFailure, Task.event?, (settleMs?_handle hm).1] at hfail
    | releaseClient | restartWorker | receive | shutdown => cases hfail
  | @announce e ms hm =>
    obtain ⟨hs, htar, -⟩ := settleMs?_handle hm
    exact ⟨[e.build], dealt_announce ht (by simp) rfl hs htar, History.told_pair ..⟩
  | @settle _ ms n o hc ho =>
    have hfail : Task.handlesFailure ⟨er, .waiting n, number⟩ = true →
        (Stage.settling (s.now + ms) o).isOver = true := fun h => by simpa [Stage.isOver] using hf h
    cases o with
    | succeeded => exact ⟨[], dealt_stage ht (by simp) rfl (by simp) rfl hfail, (List.append_nil _).symm⟩
    | failed reason => exact ⟨[], dealt_stage ht (by simp) rfl (by simp) rfl hfail, History.told_append ..⟩
  | @announceSettled e ms due o hd =>
    have htar : e.target = .client := by simpa [Errand.Fits, Errand.forClient] using hfit
    have hs : e.success = true := by
      cases hs : e.success with
      | true => rfl
      | false => simpa [Stage.isOver] using hf (by simp [Task.handlesFailure, Task.event?, hs])
    have hsettled : (s.note (.clientSettled e.build)).history.told = s.history.told :=
      History.told_quiet rfl
    refine ⟨[e.build], dealt_announce ht (by simp) rfl hs htar, ?_⟩
    rw [← hsettled]
    exact History.told_pair ..
  | @buildFailed e ms hs =>
    refine ⟨[], dealt_stage ht (by simp) rfl (by simp) ?_ fun _ => rfl, History.told_pair ..⟩
    simp [Task.told?, Task.event?, clientBuild?, hs]
  | @serverBuilt e ms s₁ hs htar h₁ =>
    have htasks : s₁.tasks = s.tasks := by rw [h₁]; split <;> rfl
    have htold : s₁.history.told = s.history.told := by
      rw [h₁]
      split
      · exact History.told_quiet rfl
      · rfl
    have hno : Task.handlesFailure ⟨.handle e ms, .fresh, number⟩ = false := by
      simp [Task.handlesFailure, Task.event?, hs]
    refine ⟨[], ?_, ?_⟩
    · show Dealt s.tasks l [] (s₁.tasks.modify i _) _
      rw [htasks]
      exact dealt_stage ht (by simp) rfl (by simp) rfl fun h => by rw [hno] at h; cases h
    · rw [← htold]
      exact History.told_pair ..
  | @serverRestarted e ms n htar ho =>
    refine ⟨[], dealt_stage ht (by simp) rfl (by simp) ?_ fun _ => rfl, History.told_append ..⟩
    simp [Task.told?, Task.event?, clientBuild?, htar]
  | @serverLost e ms n reason htar ho =>
    refine ⟨[], dealt_stage ht (by simp) rfl (by simp) ?_ fun _ => rfl, History.told_pair ..⟩
    simp [Task.told?, Task.event?, clientBuild?, htar]
  | @take ms e es isOpen s₁ h₁ =>
    refine ⟨[], ?_, ?_⟩
    · rw [Intake.after_poll_cons (by rw [State.stage?, ht]; rfl), h₁]
      exact .begin ht rfl rfl
    · rw [h₁, List.append_nil]; rfl
  | @finish ms =>
    exact ⟨[], dealt_stage ht (by simp) rfl (by simp) rfl (fun h => by cases h), History.told_pair ..⟩
  | idle =>
    refine ⟨[], ?_, (List.append_nil _).symm⟩
    rw [Intake.after_poll ht (by simp)]
    exact .refl ..

/-- **No step loses an event, or begins two tasks for one.** -/
theorem dealt_step {a : Action} (hr : Reachable script s)
    (hf : ∀ t ∈ s.tasks, t.handlesFailure = true → t.stage = .fresh ∨ t.stage.isOver = true)
    (h : step script s a = some s') (l : Intake) :
    ∃ bs, Dealt s.tasks l bs s'.tasks (l.after s a) ∧
      s'.history.told = s.history.told ++ bs := by
  have hquiet (ht : Dealt s.tasks l [] s'.tasks (l.after s a))
      (hh : s'.history.told = s.history.told) : ∃ bs,
        Dealt s.tasks l bs s'.tasks (l.after s a) ∧ s'.history.told = s.history.told ++ bs :=
    ⟨[], ht, by rw [hh, List.append_nil]⟩
  cases a with
  | request | mark | unmark =>
    cases h
    exact hquiet (.refl ..) (History.told_quiet rfl)
  | spawn er =>
    cases h
    exact hquiet (dealt_spawn hr.fit l er) (congrArg History.told (history_spawn s er))
  | send e =>
    cases h
    exact hquiet (dealt_send hr.fit l e) (congrArg History.told (history_send s e))
  | close =>
    cases h
    exact hquiet (dealt_close hr.fit l) (congrArg History.told (history_close s))
  | cancel i =>
    cases h
    exact hquiet (dealt_cancel l i) (congrArg History.told (history_cancel s i))
  | killWorker =>
    cases h
    have htasks : s.killWorker.tasks = s.tasks := by
      unfold State.killWorker
      split <;> rfl
    refine hquiet ?_ ?_
    · rw [htasks]; exact .refl ..
    · rcases history_killWorker s with hh | hh
      · exact (congrArg History.told hh).trans (History.told_quiet rfl)
      · exact congrArg History.told hh
  | pass ms => cases h; exact hquiet (.refl ..) rfl
  | claim n =>
    simp only [step, State.claim] at h
    split at h
    · cases h; exact hquiet (.refl ..) rfl
    · cases h
  | poll i =>
    obtain ⟨t, ht, hp⟩ := polled h
    exact hp.dealt hr ht (hf t (List.mem_of_getElem? ht)) l
  | turn =>
    obtain ⟨hs, ht⟩ := turned h
    refine hquiet (ht.dealt hr l) ?_
    rw [ht.history, History.told_append,
      told_stamp fun x hx => Happening.told?_of_atSlot (ht.atSlot x hx), List.append_nil]

theorem Logged.reachable (h : Logged script s l) : Reachable script s := by
  induction h with
  | new => exact .new
  | step _ hs ih => exact ih.step hs

theorem Logged.kept (h : Logged script s l) : l.Kept s.tasks s.history.told := by
  induction h with
  | new => exact .empty
  | step h hs ih =>
    obtain ⟨bs, hd, htold⟩ := dealt_step h.reachable ih.failure hs _
    rw [htold]
    exact hd.kept ih

end

/-! ## Handled once -/

/-- Whether the task receives or handles build events. -/
def Errand.dealsWithEvents : Errand → Bool
  | .handle _ _ | .receive _ => true
  | .restartWorker | .releaseClient _ | .shutdown => false

/-- The events in the channel of a task. -/
def State.queue (s : State) (i : Nat) : List Build.Event := (s.tasks[i]?.map Task.queue).getD []

/-- A build that failed is noted in the step from `s` to `s'`, and its task ends, nothing done. -/
structure Dropped (s s' : State) (i : Nat) (e : Build.Event) : Prop where
  shared : s'.shared = s.shared
  history : s'.history = s.history ++
    [(s.now, .buildFailed e.target e.build), (s.now, .taskEnded i .handled)]
  ended : s'.stage? i = some (.ended .handled)

/-- What has become of the build events of a run. -/
structure HandledOnce (script : Script) (s : State) (l : Intake) : Prop where
  /-- A loop has begun a task for each event that its channel accepted, in their order, except for
  those that are in the channel still. -/
  accepted : ∀ i, l.acceptedBy i = l.begunBy i ++ s.queue i
  tasks : ∀ d ∈ l.begun, ∃ ms g, s.tasks[d.task]? = some ⟨.handle d.event ms, g, none⟩
  /-- These tasks are different ones, each later than the one before. -/
  ascending : (l.begun.map Dispatch.task).Pairwise (· < ·)
  /-- Every other task has been called for by somebody, and not by a loop. -/
  only : ∀ j t, s.tasks[j]? = some t → t.number = none → j ∈ l.begun.map Dispatch.task
  /-- A loop can go on as long as there are events in its channel. -/
  goesOn : ∀ i, s.queue i ≠ [] → s.poll i ≠ none
  /-- When nothing can go on, or when the loop is over, there is a task for every event. -/
  atRest : s.Still script → ∀ i, l.acceptedBy i = l.begunBy i
  finished : ∀ i r, s.stage? i = some (.ended r) → l.acceptedBy i = l.begunBy i
  /-- Once all events are dealt with, the client builds that succeeded have been announced. -/
  announced : (∀ t ∈ s.tasks, t.errand.dealsWithEvents = true → t.stage.isOver = true) →
    s.history.told.Perm ((l.given ++ l.accepted.map Prod.snd).filterMap clientBuild?)
  /-- A build that failed asks for no restart, marks no change and announces nothing. -/
  failed : ∀ i e ms g k s', s.tasks[i]? = some ⟨.handle e ms, g, k⟩ → e.success = false →
    s.poll i = some s' → Dropped s s' i e

section
variable {script : Script} {s s' : State} {l : Intake} {told : List Nat} {i : Nat} {t : Task}

/-- Only a task that receives events has a channel. -/
theorem State.Fit.queue_eq_nil (h : s.Fit)
    (hr : ∀ t ms, s.tasks[i]? = some t → t.errand ≠ .receive ms) : s.queue i = [] := by
  rw [State.queue]
  cases ht : s.tasks[i]? with
  | none => rfl
  | some t =>
    have hf := h t (List.mem_of_getElem? ht)
    show t.queue = []
    rw [Task.queue]
    cases hst : t.stage with
    | receiving es isOpen =>
      rw [hst] at hf
      obtain ⟨ms, he⟩ := hf
      exact absurd he (hr t ms ht)
    | fresh | waiting | settling | claiming | ended | cancelled => rfl

theorem State.queue_eq_nil_of_isOver (ht : s.tasks[i]? = some t) (ho : t.stage.isOver = true) :
    s.queue i = [] := by
  rw [State.queue, ht]
  show t.queue = []
  rw [Task.queue]
  cases hst : t.stage <;> simp_all [Stage.isOver]

theorem Intake.Kept.acceptedBy_eq (h : l.Kept s.tasks told)
    (hc : ∀ t ∈ s.tasks, t.errand.dealsWithEvents = true → t.stage ≠ .cancelled)
    (hfit : s.Fit) (i : Nat) : l.acceptedBy i = l.begunBy i ++ s.queue i := by
  by_cases hr : ∃ t ms, s.tasks[i]? = some t ∧ t.errand = .receive ms
  · obtain ⟨t, ms, ht, he⟩ := hr
    have hcancel := hc t (List.mem_of_getElem? ht) (by rw [he]; rfl)
    rw [State.queue, ht]
    exact h.queue i t ms ht he hcancel
  · have hacc : l.acceptedBy i = [] := eventsOf_eq_nil fun x hx hxi => by
      obtain ⟨t, ms, ht, he⟩ := h.placed.receivers x hx
      exact hr ⟨t, ms, hxi ▸ ht, he⟩
    have hbeg : l.begunBy i = [] := eventsOf_eq_nil fun x hx hxi => by
      obtain ⟨d, hd, rfl⟩ := List.mem_map.mp hx
      obtain ⟨ms, -, t, -, ht, he⟩ := h.placed.begun d hd
      exact hr ⟨t, ms, hxi ▸ ht, he⟩
    rw [hacc, hbeg, hfit.queue_eq_nil fun t ms ht he => hr ⟨t, ms, ht, he⟩]
    rfl

/-- A loop with events in its channel takes the next one. -/
theorem State.Fit.poll_ne_none (h : s.Fit) (hq : s.queue i ≠ []) : s.poll i ≠ none := by
  rw [State.queue] at hq
  cases ht : s.tasks[i]? with
  | none => simp [ht] at hq
  | some t =>
    have hfit := h t (List.mem_of_getElem? ht)
    rw [ht] at hq
    have hq : t.queue ≠ [] := hq
    rw [Task.queue] at hq
    cases hst : t.stage with
    | receiving es isOpen =>
      rw [hst] at hq hfit
      obtain ⟨ms, he⟩ := hfit
      obtain ⟨e, es, rfl⟩ := List.exists_cons_of_ne_nil hq
      simp [State.poll, ht, hst, he, State.receive]
    | fresh | waiting | settling | claiming | ended | cancelled =>
      rw [hst] at hq
      exact absurd rfl hq

/-- Once a task is over and was not given up, it has announced its build if that succeeded. -/
theorem Task.told?_of_isOver {t : Task}
    (ho : t.errand.dealsWithEvents = true → t.stage.isOver = true)
    (hc : t.errand.dealsWithEvents = true → t.stage ≠ .cancelled) :
    t.told? = t.event?.bind clientBuild? := by
  obtain ⟨er, g, k⟩ := t
  cases er with
  | handle e ms =>
    have ho := ho rfl
    have hc := hc rfl
    cases g with
    | ended r => rfl
    | cancelled => exact absurd rfl hc
    | fresh | waiting | settling | receiving | claiming => cases ho
  | restartWorker | releaseClient | receive | shutdown => cases g <;> rfl

theorem Intake.Kept.announced (h : l.Kept s.tasks told)
    (hall : ∀ i, l.acceptedBy i = l.begunBy i)
    (ho : ∀ t ∈ s.tasks, t.errand.dealsWithEvents = true → t.stage.isOver = true)
    (hc : ∀ t ∈ s.tasks, t.errand.dealsWithEvents = true → t.stage ≠ .cancelled) :
    told.Perm ((l.given ++ l.accepted.map Prod.snd).filterMap clientBuild?) := by
  have htold : s.tasks.filterMap Task.told? =
      (s.tasks.filterMap Task.event?).filterMap clientBuild? := by
    rw [List.filterMap_filterMap]
    exact List.filterMap_congr fun t ht => Task.told?_of_isOver (ho t ht) (hc t ht)
  have hevents : (l.begun.map Dispatch.event).Perm (l.accepted.map Prod.snd) := by
    have hp := (perm_of_eventsOf hall).symm.map Prod.snd
    rwa [List.map_map] at hp
  refine h.told.trans ?_
  rw [htold]
  exact (h.placed.events.trans (hevents.append_left l.given)).filterMap _

theorem dropped_poll (h : l.Kept s.tasks told) {e : Build.Event}
    {ms : Nat} {g : Stage} {k : Option Nat} (ht : s.tasks[i]? = some ⟨.handle e ms, g, k⟩)
    (hs : e.success = false) (hp : s.poll i = some s') : Dropped s s' i e := by
  have hfail := h.failure _ (List.mem_of_getElem? ht)
    (by simp [Task.handlesFailure, Task.event?, hs])
  rcases hfail with rfl | ho
  · obtain rfl : (s.note (.buildFailed e.target e.build)).endTask i .handled = s' := by
      simpa [State.poll, ht, State.startTask, State.handleFresh, hs] using hp
    refine ⟨rfl, List.append_assoc .., ?_⟩
    simp [State.stage?, State.endTask, State.setStage, State.note, ht]
  · cases g with
    | ended r => simp [State.poll, ht] at hp
    | cancelled => simp [State.poll, ht] at hp
    | fresh | waiting | settling | receiving | claiming => cases ho

/-- **Every build event is handled exactly once**, in any run in which no task that receives or
handles events is given up. -/
theorem events_handled_once (h : Logged script s l)
    (hc : ∀ t ∈ s.tasks, t.errand.dealsWithEvents = true → t.stage ≠ .cancelled) :
    HandledOnce script s l := by
  have hr : Reachable script s := h.reachable
  have hk : l.Kept s.tasks s.history.told := h.kept
  have hacc : ∀ i, l.acceptedBy i = l.begunBy i ++ s.queue i := hk.acceptedBy_eq hc hr.fit
  have hdone {i : Nat} (hq : s.queue i = []) : l.acceptedBy i = l.begunBy i := by
    rw [hacc, hq, List.append_nil]
  constructor
  case accepted => exact hacc
  case tasks =>
    intro d hd
    obtain ⟨ms, g, _, hd, -⟩ := hk.placed.begun d hd
    exact ⟨ms, g, hd⟩
  case ascending => exact hk.placed.ascending
  case only => exact hk.placed.only
  case goesOn => exact fun i hq => hr.fit.poll_ne_none hq
  case atRest =>
    intro hstill i
    refine hdone (Decidable.byContradiction fun hq => ?_)
    exact hr.fit.poll_ne_none hq (still_iff.mp hstill (.poll i) rfl)
  case finished =>
    intro i r hst
    refine hdone ?_
    obtain ⟨t, ht, hst⟩ := Option.map_eq_some_iff.mp hst
    exact State.queue_eq_nil_of_isOver ht (by rw [hst]; rfl)
  case announced =>
    intro ho
    refine hk.announced (fun i => hdone ?_) ho hc
    by_cases hrec : ∃ t ms, s.tasks[i]? = some t ∧ t.errand = .receive ms
    · obtain ⟨t, ms, ht, he⟩ := hrec
      exact State.queue_eq_nil_of_isOver ht (ho t (List.mem_of_getElem? ht) (by rw [he]; rfl))
    · exact hr.fit.queue_eq_nil fun t ms ht he => hrec ⟨t, ms, ht, he⟩
  case failed => exact fun i e ms g k s' ht hs hp => dropped_poll hk ht hs hp

end

/-- The channel is closed right after three events, and the loop is over before any of them is
handled; the restart that two client builds wait for panics. -/
theorem events_handled_once_after_close : ∃ s l, Logged ⟨[⟨100, .panic⟩], []⟩ s l ∧
    (∀ t ∈ s.tasks, t.errand.dealsWithEvents = true → t.stage ≠ .cancelled) ∧
    (∀ t ∈ s.tasks, t.errand.dealsWithEvents = true → t.stage.isOver = true) ∧
    l.begunBy 0 = [serverBuild 1 false, clientBuild 1, { clientBuild 2 with success := false }] ∧
    (100, .abandoned 1) ∈ s.history ∧ s.history.told.Perm [7, 1] := by
  obtain ⟨s, hf, hstages, hp⟩ : ∃ s, State.new.follow? ⟨[⟨100, .panic⟩], []⟩ anyAction
      [.spawn (.receive 50), .send (serverBuild 1 false), .send (clientBuild 1),
        .send { clientBuild 2 with success := false }, .close, .poll 0, .poll 0, .poll 0, .poll 0,
        .spawn (.handle (clientBuild 7) 50), .poll 1, .claim 1, .turn, .poll 2, .poll 3, .poll 4,
        .pass 100, .turn, .poll 1, .poll 2, .poll 4, .pass 50, .poll 2, .poll 4] = some s ∧
      s.tasks.map Task.stage = [.ended .finished, .ended .handled, .ended .handled,
        .ended .handled, .ended .handled] ∧
      s.history[11]? = some (100, .abandoned 1) :=
    ⟨_, rfl, rfl, rfl⟩
  have hended : ∀ t ∈ s.tasks, ∃ r, t.stage = .ended r := by
    intro t ht
    have hm : t.stage ∈ s.tasks.map Task.stage := List.mem_map_of_mem ht
    rw [hstages] at hm
    simp only [List.mem_cons, List.not_mem_nil, or_false] at hm
    rcases hm with h | h | h | h | h <;> exact ⟨_, h⟩
  have hc : ∀ t ∈ s.tasks, t.errand.dealsWithEvents = true → t.stage ≠ .cancelled := by
    intro t ht _ hcancel
    obtain ⟨r, hr⟩ := hended t ht
    cases hcancel.symm.trans hr
  have ho : ∀ t ∈ s.tasks, t.errand.dealsWithEvents = true → t.stage.isOver = true := by
    intro t ht _
    obtain ⟨r, hr⟩ := hended t ht
    rw [hr]; rfl
  have h₀ : s.stage? 0 = some (.ended .finished) := by
    rw [State.stage?, ← List.getElem?_map, hstages]; rfl
  have hlog := Logged.new.along hf
  have hall := events_handled_once hlog hc
  have hbegun := (hall.finished 0 _ h₀).symm
  exact ⟨s, _, hlog, hc, ho, hbegun, List.mem_of_getElem? hp, hall.announced ho⟩

end DevServer.Restart
