import DevServer.Proofs.Restart.Steps
import Mathlib.Algebra.GroupWithZero.Nat

/-!
# Rest

Every action from within lowers `State.work` (`work_lt`), so letting everything go on ends where
nothing can (`Still`, `still_rest`), and it is a run. The clock then moves from deadline to deadline
(`till_hop`), and there is work at each of them, so waiting is a prompt run that ends at rest and in
time (`run_wait`).
-/

namespace DevServer.Restart

/-- Actions that come from within. -/
def Action.isInner : Action → Bool
  | poll _ | claim _ | turn => true
  | request | spawn _ | send _ | close | cancel _ | mark | unmark | killWorker | pass _ => false

/-- Nothing from within can happen. -/
def State.Still (script : Script) (s : State) : Prop := s.move? script = none

/-! ## Stages that an errand can be in -/

/-- Whether a task does nothing but wait for a restart once it has started. -/
def Errand.onlyWaits : Errand → Bool
  | .restartWorker | .releaseClient _ | .handle _ _ => true
  | .receive _ | .shutdown => false

/-- A loop receives from the start, whoever waits for a restart does nothing else, and only client
builds settle. -/
def Errand.Fits (er : Errand) : Stage → Prop
  | .fresh => ∀ ms, er ≠ .receive ms
  | .waiting _ => er.onlyWaits = true
  | .settling _ _ => er.forClient = true
  | .receiving _ _ => ∃ ms, er = .receive ms
  | .claiming => er = .shutdown
  | .ended _ | .cancelled => True

def State.Fit (s : State) : Prop := ∀ t ∈ s.tasks, t.errand.Fits t.stage

theorem Errand.onlyWaits_of_forClient {er : Errand} (h : er.forClient = true) :
    er.onlyWaits = true := by
  cases er <;> first | rfl | cases h

theorem Errand.onlyWaits_of_settleMs? {er : Errand} {ms : Nat} (h : er.settleMs? = some ms) :
    er.onlyWaits = true := by
  cases er <;> first | rfl | cases h

section
variable {script : Script} {s s' : State} {i : Nat} {t : Task} {g : Stage}

namespace State.Fit

theorem of_tasks (h : s.Fit) (ht : s'.tasks = s.tasks) : s'.Fit := fun t hm => h t (ht ▸ hm)

theorem setStage (h : s.Fit) (hg : ∀ t, s.tasks[i]? = some t → t.errand.Fits g) :
    (s.setStage i g).Fit := by
  intro t ht
  obtain ⟨j, hj⟩ := List.mem_iff_getElem?.mp ht
  simp only [State.setStage, List.getElem?_modify, Option.map_eq_map, Option.map_eq_some_iff] at hj
  obtain ⟨t, htj, rfl⟩ := hj
  split
  · next hij => exact hg t (hij ▸ htj)
  · exact h t (List.mem_of_getElem? htj)

theorem setStage_of (h : s.Fit) (ht : s.tasks[i]? = some t) (hg : t.errand.Fits g) :
    (s.setStage i g).Fit := by
  refine h.setStage fun u hu => ?_
  rw [ht] at hu
  cases hu
  exact hg

theorem endTask (h : s.Fit) (r : Result) : (s.endTask i r).Fit := h.setStage fun _ _ => trivial

theorem append (h : s.Fit) {er : Errand} (hg : er.Fits g) (number inbox : Option Nat) :
    State.Fit { s with tasks := s.tasks ++ [⟨er, g, number⟩], inbox } := by
  intro u hu
  rcases List.mem_append.mp hu with hu | hu
  · exact h u hu
  · rw [List.mem_singleton.mp hu]; exact hg

theorem settleClient (h : s.Fit) (ht : s.tasks[i]? = some t) (hc : t.errand.forClient = true)
    (n ms : Nat) (o : Outcome) : (s.settleClient i n ms o).Fit := by
  cases o with
  | succeeded => exact h.setStage_of ht hc
  | failed reason => exact (h.of_tasks rfl : (s.note _).Fit).setStage_of ht hc

theorem polled (h : s.Fit) (ht : s.tasks[i]? = some t) {er : Errand} (he : t.errand = er)
    (hp : Polled s i er g s') : s'.Fit := by
  cases hp with
  | request => exact (h.of_tasks rfl : s.request.Fit).setStage_of ht (he ▸ rfl)
  | shutDown => exact State.Fit.setStage_of (h.of_tasks rfl) ht he
  | @hold _ _ n hm =>
    exact (h.of_tasks rfl : (s.note (.clientWaits n)).Fit).setStage_of ht
      (he ▸ Errand.onlyWaits_of_settleMs? hm)
  | restarted | pass | released | announce | announceSettled | buildFailed | serverRestarted
  | serverLost | finish => exact State.Fit.endTask (h.of_tasks rfl) _
  | settle hc => exact h.settleClient ht (he ▸ hc) _ _ _
  | @serverBuilt e _ s₁ _ _ h₁ =>
    have hs₁ : s₁.tasks = s.tasks := by rw [h₁]; split <;> rfl
    refine State.Fit.setStage_of (t := t) (h.of_tasks hs₁) ?_ (he ▸ rfl)
    exact (congrArg (·[i]?) hs₁).trans ht
  | @take ms e _ _ _ h₁ =>
    have hf : (Errand.handle e ms).Fits .fresh := nofun
    refine State.Fit.append ?_ hf _ _
    rw [h₁]
    exact h.setStage_of ht ⟨ms, he⟩
  | idle => exact h

/-- The task that takes events from the channel goes on to do so. -/
theorem setReceiving (h : s.Fit) {inbox : Option Nat} (hi : inbox = some i)
    {es : List Build.Event} {isOpen : Bool}
    (hg : inbox.bind s.stage? = some (.receiving es isOpen)) (es' : List Build.Event)
    (isOpen' : Bool) : (s.setStage i (.receiving es' isOpen')).Fit := by
  rw [hi] at hg
  obtain ⟨t, ht, hg⟩ := Option.map_eq_some_iff.mp (show s.stage? i = _ from hg)
  have hf := h t (List.mem_of_getElem? ht)
  rw [hg] at hf
  exact h.setStage_of ht hf

theorem close (h : s.Fit) : s.close.Fit := by
  unfold State.close
  split
  · next i es hi hg => exact (h.setReceiving hi hg es false).of_tasks rfl
  · exact h.of_tasks rfl

theorem step {a : Action} (h : s.Fit) (hs : Restart.step script s a = some s') : s'.Fit := by
  cases a with
  | request | mark | unmark | pass => cases hs; exact h.of_tasks rfl
  | spawn er =>
    cases hs
    cases er with
    | receive ms =>
      have hf : (Errand.receive ms).Fits (.receiving [] true) := ⟨ms, rfl⟩
      exact h.close.append hf _ _
    | restartWorker | releaseClient | handle | shutdown =>
      refine h.append (g := .fresh) ?_ _ s.inbox
      nofun
  | send e =>
    cases hs
    show (s.send e).Fit
    unfold State.send
    split
    · next i es hi hg => exact h.setReceiving hi hg _ true
    · exact h
  | close => cases hs; exact h.close
  | cancel i =>
    cases hs
    show (s.cancel i).Fit
    unfold State.cancel
    split
    · split
      · exact h
      · exact (h.of_tasks rfl).setStage fun _ _ => trivial
    · exact h
  | killWorker =>
    cases hs
    refine h.of_tasks ?_
    unfold State.killWorker
    split <;> rfl
  | claim n =>
    simp only [Restart.step, State.claim] at hs
    split at hs
    · cases hs; exact h.of_tasks rfl
    · cases hs
  | poll i =>
    obtain ⟨t, ht, hp⟩ := Restart.polled hs
    exact h.polled ht rfl hp
  | turn =>
    obtain ⟨k, ht⟩ := Restart.turned hs
    cases ht with
    | nothingToStop | stopped => exact State.Fit.endTask (h.of_tasks rfl) _
    | skip | stopPrevious | startFirst | startNext | stopLast | panic => exact h.of_tasks rfl
    | install =>
      refine h.of_tasks ?_
      simp only [State.startReturned, State.installWorker]
      split <;> rfl
    | fail _ _ hf => cases hf <;> exact h.of_tasks rfl

end State.Fit

theorem Reachable.fit (hs : Reachable script s) : s.Fit := by
  induction hs with
  | new => exact nofun
  | step _ hs ih => exact ih.step hs

theorem Run.fit {ok : State → Action → Bool} (hr : Run script ok s s') (h : s.Fit) : s'.Fit := by
  induction hr with
  | refl => exact h
  | next _ _ hs ih => exact ih.step hs

end

/-! ## Every action from within uses up work -/

section
variable {script : Script} {s s' : State} {i : Nat} {t : Task} {g : Stage}

theorem work_eq (s : State) : s.work =
    (s.tasks.map (·.stage.work)).sum + 4 * s.unclaimed.length + (s.line.map Claim.work).sum := by
  simp [State.work, List.sum, List.foldr_map]

theorem sum_setStage {l : List Task} (ht : l[i]? = some t) (g : Stage) :
    ((l.modify i ({ · with stage := g })).map (·.stage.work)).sum + t.stage.work =
      (l.map (·.stage.work)).sum + g.work := by
  induction l generalizing i with
  | nil => cases ht
  | cons u l ih =>
    cases i with
    | zero => cases ht; simp; omega
    | succ i =>
      have := ih ht
      simp only [List.modify_succ_cons, List.map_cons, List.sum_cons]
      omega

theorem work_setStage (ht : s.tasks[i]? = some t) (g : Stage) :
    (s.setStage i g).work + t.stage.work = s.work + g.work := by
  have := sum_setStage ht g
  simp only [work_eq, State.setStage]
  omega

theorem work_lt_of_setStage {r : State} (ht : r.tasks[i]? = some t)
    (h : r.work + g.work < s.work + t.stage.work) : (r.setStage i g).work < s.work := by
  have := work_setStage ht g
  omega

theorem work_lt_of_endTask (ht : s'.tasks[i]? = some t) (h : s'.work < s.work + t.stage.work)
    (r : Result) : (s'.endTask i r).work < s.work :=
  work_lt_of_setStage (g := .ended r) ht h

theorem work_request_le (s : State) : s.request.work ≤ s.work + 4 := by
  simp only [work_eq, State.request, State.note]
  split
  · exact Nat.le_add_right _ 4
  · simp only [List.length_append, List.length_singleton]
    omega

theorem work_append (s : State) (er : Errand) (g : Stage) (number : Option Nat) :
    State.work { s with tasks := s.tasks ++ [⟨er, g, number⟩] } = s.work + g.work := by
  simp only [work_eq, List.map_append, List.sum_append, List.map_singleton, List.sum_singleton]
  omega

theorem Polled.work_lt {er : Errand} (hp : Polled s i er g s') (ht : s.tasks[i]? = some t)
    (hg : t.stage = g) (hf : er.Fits g) : s'.work < s.work := by
  -- a task that ends had work left, whatever was noted before
  have hend {s₁ : State} (h₁ : s₁.tasks = s.tasks) (hw : s₁.work = s.work) (hpos : 0 < g.work)
      (r : Result) : (s₁.endTask i r).work < s.work :=
    work_lt_of_endTask (h₁ ▸ ht) (by rw [hw, hg]; omega) r
  cases hp with
  | restarted | pass | released | serverRestarted | announce | announceSettled | buildFailed
  | serverLost | finish => exact hend rfl rfl (by simp [Stage.work]) _
  | request =>
    have hw := work_request_le s
    exact work_lt_of_setStage (r := s.request) ht (by simp only [hg, Stage.work]; omega)
  | shutDown =>
    refine work_lt_of_setStage (r := { s with
      shutDown := true, line := s.line ++ [Claim.enters (.shutdown i)] }.note .shutdownCalled) ht ?_
    simp [work_eq, State.note, hg, Claim.work, Stage.work]
    omega
  | @hold _ _ n =>
    refine work_lt_of_setStage (r := s.note (.clientWaits n)) ht ?_
    rw [hg]
    show s.work + 2 < s.work + 7
    omega
  | @settle _ _ n o =>
    cases o with
    | succeeded =>
      refine work_lt_of_setStage ht ?_
      rw [hg]
      show s.work + 1 < s.work + 2
      omega
    | failed reason =>
      refine work_lt_of_setStage (r := s.note (.clientWaitFailed n reason)) ht ?_
      rw [hg]
      show s.work + 1 < s.work + 2
      omega
  | @serverBuilt e _ s₁ _ _ h₁ =>
    have hs₁ : s₁.work = s.work ∧ s₁.tasks = s.tasks := by rw [h₁]; split <;> exact ⟨rfl, rfl⟩
    have hw : (s₁.note (.serverBuilt e.build)).request.work ≤ s.work + 4 := by
      rw [← hs₁.1]; exact work_request_le _
    refine work_lt_of_setStage (r := (s₁.note (.serverBuilt e.build)).request) (t := t) ?_ ?_
    · show s₁.tasks[i]? = _
      rw [hs₁.2, ht]
    · simp only [hg, Stage.work]; omega
  | @take ms e es isOpen s₁ h₁ =>
    have hw := work_setStage ht (.receiving es isOpen)
    rw [work_append, h₁]
    simp only [hg, Stage.work, List.length_cons] at hw ⊢
    omega
  | idle => exact absurd rfl (hf _)

theorem sum_ended_le (l : List Task) (i : Nat) (r : Result) :
    ((l.modify i ({ · with stage := .ended r })).map (·.stage.work)).sum ≤
      (l.map (·.stage.work)).sum := by
  rcases ht : l[i]? with _ | t
  · exact Nat.le_of_eq (by rw [List.modify_eq_self (List.getElem?_eq_none_iff.mp ht)])
  · have := sum_setStage ht (.ended r)
    simp only [Stage.work] at this ⊢
    omega

/-- The owner of the slot leaves restarts that have not claimed it and tasks alone, but for the task
of a shutdown that ends. -/
theorem Turned.keeps_tasks {hs : List Happening} (h : Turned script s hs s') :
    s'.unclaimed = s.unclaimed ∧
      (s'.tasks = s.tasks ∨ ∃ i r, s'.tasks = s.tasks.modify i ({ · with stage := .ended r })) := by
  cases h with
  | nothingToStop | stopped => exact ⟨rfl, .inr ⟨_, _, rfl⟩⟩
  | install =>
    simp only [State.startReturned, State.installWorker]
    split <;> exact ⟨rfl, .inl rfl⟩
  | fail _ _ hf => cases hf <;> exact ⟨rfl, .inl rfl⟩
  | _ => exact ⟨rfl, .inl rfl⟩

theorem Turned.work_lt {hs : List Happening} (h : Turned script s hs s') : s'.work < s.work := by
  obtain ⟨hu, ht⟩ := h.keeps_tasks
  have hsum : (s'.tasks.map (·.stage.work)).sum ≤ (s.tasks.map (·.stage.work)).sum := by
    rcases ht with ht | ⟨i, r, ht⟩
    · exact Nat.le_of_eq (by rw [ht])
    · rw [ht]; exact sum_ended_le _ i r
  obtain ⟨x, rest, hl, hl'⟩ := h.line
  have hx : 0 < x.work := by cases x <;> simp [Claim.work]
  rw [work_eq, work_eq, hu, hl, List.map_cons, List.sum_cons]
  rcases hl' with ⟨hl', -⟩ | ⟨y, -, hy, hl'⟩
  · rw [hl']; omega
  · rw [hl', List.map_cons, List.sum_cons]; omega

/-- **Every action from within uses up work.** -/
theorem work_lt {a : Action} (hf : s.Fit) (ha : a.isInner = true) (h : step script s a = some s') :
    s'.work < s.work := by
  cases a with
  | poll i =>
    obtain ⟨t, ht, hp⟩ := polled h
    exact hp.work_lt ht rfl (hf t (List.mem_of_getElem? ht))
  | claim n =>
    simp only [step, State.claim] at h
    split at h
    · next hn =>
      cases h
      have : (s.unclaimed.filter (· != n)).length < s.unclaimed.length :=
        List.length_filter_lt_length_iff_exists.mpr ⟨n, hn, by simp⟩
      simp [work_eq, Claim.work]
      omega
    · cases h
  | turn =>
    obtain ⟨hs, ht⟩ := turned h
    exact ht.work_lt
  | _ => cases ha

/-! ## Letting everything go on -/

theorem step_of_move? (h : s.move? script = some s') :
    ∃ a, a.isInner = true ∧ step script s a = some s' := by
  obtain ⟨a, ha, hs⟩ := List.exists_of_findSome?_eq_some h
  refine ⟨a, ?_, hs⟩
  simp only [State.moves, List.mem_append, List.mem_map, List.mem_singleton] at ha
  rcases ha with (⟨i, -, rfl⟩ | ⟨n, -, rfl⟩) | rfl <;> rfl

theorem still_iff : s.Still script ↔ ∀ a, a.isInner = true → step script s a = none := by
  constructor
  · intro h a ha
    have hm := List.findSome?_eq_none_iff.mp h
    cases a with
    | poll i =>
      rcases Nat.lt_or_ge i s.tasks.length with hi | hi
      · exact hm _ (by simp [State.moves, hi])
      · simp [step, State.poll, List.getElem?_eq_none hi]
    | claim n =>
      by_cases hn : n ∈ s.unclaimed
      · exact hm _ (by simp [State.moves, hn])
      · simp [step, State.claim, hn]
    | turn => exact hm _ (by simp [State.moves])
    | _ => cases ha
  · intro h
    rcases hm : s.move? script with _ | s'
    · exact hm
    · obtain ⟨a, ha, hs⟩ := step_of_move? hm
      rw [h a ha] at hs
      cases hs

theorem moveTimes_of_still (h : s.Still script) (n : Nat) : s.moveTimes script n = s := by
  cases n with
  | zero => rfl
  | succ n => rw [State.moveTimes, h]

theorem moveTimes_of_move (h : s.move? script = some s') (n : Nat) :
    s.moveTimes script (n + 1) = s'.moveTimes script n := by
  rw [State.moveTimes, h]

/-- Enough steps let everything go on, and more of them make no difference. -/
theorem moveTimes_eq_rest (hf : s.Fit) {n : Nat} (hn : s.work ≤ n) :
    s.moveTimes script n = s.rest script ∧ (s.rest script).Still script := by
  suffices h : ∀ m, s.work ≤ m →
      s.moveTimes script n = s.moveTimes script m ∧ (s.moveTimes script m).Still script from
    h s.work (Nat.le_refl _)
  intro m hm
  induction n generalizing s m with
  | zero =>
    have hst : s.Still script := by
      rcases h : s.move? script with _ | s'
      · exact h
      · obtain ⟨a, ha, hs⟩ := step_of_move? h
        have := work_lt hf ha hs
        omega
    rw [moveTimes_of_still hst, moveTimes_of_still hst]
    exact ⟨rfl, hst⟩
  | succ n ih =>
    rcases h : s.move? script with _ | s'
    · rw [moveTimes_of_still h, moveTimes_of_still h]
      exact ⟨rfl, h⟩
    · obtain ⟨a, ha, hs⟩ := step_of_move? h
      have hw := work_lt hf ha hs
      obtain ⟨m, rfl⟩ : ∃ k, m = k + 1 := ⟨m - 1, by omega⟩
      rw [moveTimes_of_move h, moveTimes_of_move h]
      exact ih (hf.step hs) (by omega) m (by omega)

theorem still_rest (hf : s.Fit) : (s.rest script).Still script :=
  (moveTimes_eq_rest hf (Nat.le_refl _)).2

theorem rest_of_still (h : s.Still script) : s.rest script = s := moveTimes_of_still h _

theorem rest_of_move (hf : s.Fit) (h : s.move? script = some s') :
    s.rest script = s'.rest script := by
  obtain ⟨a, ha, hs⟩ := step_of_move? h
  have hw := work_lt hf ha hs
  rw [← (moveTimes_eq_rest hf (Nat.le_succ s.work)).1, moveTimes_of_move h]
  exact (moveTimes_eq_rest (hf.step hs) (Nat.le_of_lt hw)).1

/-- What every action from within keeps is kept while everything goes on. -/
theorem moveTimes_keeps {P : State → Prop}
    (hP : ∀ s a s', P s → a.isInner = true → step script s a = some s' → P s') (h : P s) (n : Nat) :
    P (s.moveTimes script n) := by
  induction n generalizing s with
  | zero => exact h
  | succ n ih =>
    rcases hm : s.move? script with _ | s'
    · rw [moveTimes_of_still hm]; exact h
    · obtain ⟨a, ha, hs⟩ := step_of_move? hm
      rw [moveTimes_of_move hm]
      exact ih (hP s a s' h ha hs)

theorem fit_rest (hf : s.Fit) : (s.rest script).Fit :=
  moveTimes_keeps (fun _ _ _ hf _ hs => hf.step hs) hf _

theorem work_rest_le (hf : s.Fit) : (s.rest script).work ≤ s.work :=
  (moveTimes_keeps (P := fun s' => s'.Fit ∧ s'.work ≤ s.work)
    (fun _ _ _ h ha hs => ⟨h.1.step hs, Nat.le_of_lt (Nat.lt_of_lt_of_le (work_lt h.1 ha hs) h.2)⟩)
    ⟨hf, Nat.le_refl _⟩ _).2

theorem now_of_inner {a : Action} (ha : a.isInner = true) (h : step script s a = some s') :
    s'.now = s.now := by
  rcases touches_step h (by rintro ms rfl; cases ha) with ht | ⟨i, ht, -⟩
  · exact (ht 0).now
  · exact ht.now

theorem now_rest (s : State) : (s.rest script).now = s.now :=
  moveTimes_keeps (P := fun s' => s'.now = s.now)
    (fun _ _ _ h ha hs => (now_of_inner ha hs).trans h) rfl _

/-! ## Deadlines -/

theorem mem_deadlines {d : Nat} : d ∈ s.deadlines ↔
    (∃ t ∈ s.tasks, ∃ o, t.stage = .settling d o) ∨
      ∃ x rest, s.line = x :: rest ∧ x.isCall = true ∧ x.due = d := by
  rw [State.deadlines, List.mem_append, List.mem_filterMap]
  refine or_congr ⟨?_, ?_⟩ ?_
  · rintro ⟨t, ht, hd⟩
    split at hd
    · next due o hg => cases hd; exact ⟨t, ht, o, hg⟩
    · cases hd
  · rintro ⟨t, ht, o, hg⟩
    exact ⟨t, ht, by rw [hg]⟩
  · rcases s.line with _ | ⟨x, rest⟩
    · simp
    · cases x with
      | enters => simp [Claim.isCall]
      | stops | starts => simpa [Claim.isCall, Claim.due] using eq_comm

theorem nextDeadline?_eq_some_iff {d : Nat} : s.nextDeadline? = some d ↔
    d ∈ s.deadlines ∧ s.now < d ∧ ∀ e ∈ s.deadlines, s.now < e → d ≤ e := by
  rw [State.nextDeadline?, List.min?_eq_some_iff]
  simp [and_assoc]

theorem nextDeadline?_eq_none (h : s.nextDeadline? = none) : ∀ e ∈ s.deadlines, e ≤ s.now := by
  intro e he
  have := List.filter_eq_nil_iff.mp (List.min?_eq_none_iff.mp h) e he
  simpa using this

/-- At a deadline something can happen. -/
theorem not_still_of_deadline (hf : s.Fit) {d : Nat} (hd : d ∈ s.deadlines) (hle : d ≤ s.now) :
    ¬s.Still script := by
  intro hst
  have hst := still_iff.mp hst
  rcases mem_deadlines.mp hd with ⟨t, ht, o, hg⟩ | ⟨x, rest, hl, -, hx⟩
  · obtain ⟨i, hi⟩ := List.mem_iff_getElem?.mp ht
    have hp : s.poll i = none := hst (.poll i) rfl
    have hc := hf t ht
    rw [hg] at hc
    rw [poll_settling hi hg, if_pos hle] at hp
    cases he : t.errand with
    | releaseClient | handle => rw [he] at hp; cases hp
    | restartWorker | receive | shutdown => rw [he] at hc; cases hc
  · exact turn_ne_none hl (hx ▸ hle) (hst .turn rfl)

/-! ## The clock -/

theorem moveClock_eq (s : State) (time : Nat) : s.moveClock script time =
    State.rest script { s with now := s.now + (time - s.now) } := rfl

theorem fit_moveClock (hf : s.Fit) (time : Nat) : (s.moveClock script time).Fit :=
  fit_rest (hf.of_tasks rfl)

theorem still_moveClock (hf : s.Fit) (time : Nat) : (s.moveClock script time).Still script :=
  still_rest (hf.of_tasks rfl)

theorem now_moveClock (script : Script) {time : Nat} (h : s.now ≤ time) :
    (s.moveClock script time).now = time := by
  rw [moveClock_eq, now_rest]
  exact Nat.add_sub_of_le h

/-- A deadline that comes lets something happen. -/
theorem work_moveClock_lt (script : Script) (hf : s.Fit) {d : Nat} (hd : d ∈ s.deadlines)
    (hlt : s.now < d) : (s.moveClock script d).work < s.work := by
  let p : State := { s with now := s.now + (d - s.now) }
  have hp : p.Fit := hf.of_tasks rfl
  have hdp : d ∈ p.deadlines := hd
  have hle : d ≤ p.now := by show d ≤ s.now + (d - s.now); omega
  rcases h : p.move? script with _ | s'
  · exact absurd h (not_still_of_deadline hp hdp hle)
  · obtain ⟨a, ha, hs⟩ := step_of_move? h
    rw [moveClock_eq, rest_of_move hp h]
    have hw : s'.work < p.work := work_lt hp ha hs
    exact Nat.lt_of_le_of_lt (work_rest_le (hp.step hs)) hw

theorem work_nextDeadline_lt (script : Script) (hf : s.Fit) {d : Nat}
    (hd : s.nextDeadline? = some d) : (s.moveClock script d).work < s.work := by
  obtain ⟨hm, hlt, -⟩ := nextDeadline?_eq_some_iff.mp hd
  exact work_moveClock_lt script hf hm hlt

/-- The clock moves to `time`, by way of all deadlines before it. -/
def State.till (script : Script) (s : State) (time : Nat) : State := s.clockTo script time s.work

theorem clockTo_eq {time : Nat} (hf : s.Fit) {n m : Nat} (hn : s.work ≤ n) (hm : s.work ≤ m) :
    s.clockTo script time n = s.clockTo script time m := by
  induction n generalizing s m with
  | zero =>
    have hd : s.nextDeadline? = none := by
      rcases h : s.nextDeadline? with _ | d
      · rfl
      · have := work_nextDeadline_lt script hf h
        omega
    cases m with
    | zero => rfl
    | succ m => simp only [State.clockTo, hd]
  | succ n ih =>
    rcases h : s.nextDeadline? with _ | d
    · cases m <;> simp only [State.clockTo, h]
    · have hw := work_nextDeadline_lt script hf h
      obtain ⟨m, rfl⟩ : ∃ k, m = k + 1 := ⟨m - 1, by omega⟩
      simp only [State.clockTo, h]
      split
      · exact ih (fit_moveClock hf d) (by omega) (by omega)
      · rfl

/-- A deadline on the way. -/
theorem till_hop {time d : Nat} (hf : s.Fit) (hd : s.nextDeadline? = some d) (hle : d ≤ time) :
    s.till script time = (s.moveClock script d).till script time := by
  have hw := work_nextDeadline_lt script hf hd
  rw [State.till, clockTo_eq hf (Nat.le_refl _) (Nat.le_succ _)]
  simp only [State.clockTo, hd, if_pos hle]
  exact clockTo_eq (fit_moveClock hf d) (Nat.le_of_lt hw) (Nat.le_refl _)

/-- No deadline on the way. -/
theorem till_last {time : Nat} (h : ∀ e ∈ s.deadlines, s.now < e → time < e) :
    s.till script time = s.moveClock script time := by
  rw [State.till]
  generalize s.work = n
  cases n with
  | zero => rfl
  | succ n =>
    rcases hd : s.nextDeadline? with _ | d
    · simp only [State.clockTo, hd]
    · obtain ⟨hm, hlt, -⟩ := nextDeadline?_eq_some_iff.mp hd
      simp only [State.clockTo, hd, if_neg (Nat.not_le.mpr (h d hm hlt))]

/-! ## Runs -/

/-- `ok` lets everything go on, and lets the clock move as in a prompt run. -/
structure LetsGo (script : Script) (ok : State → Action → Bool) : Prop where
  inner : ∀ s a, a.isInner = true → ok s a = true
  pass : ∀ s ms, s.prompt script (.pass ms) = true → ok s (.pass ms) = true

variable {ok : State → Action → Bool}

theorem run_rest (hok : LetsGo script ok) (s : State) : Run script ok s (s.rest script) :=
  moveTimes_keeps (fun s a _ hr ha hs => hr.next (hok.inner s a ha) hs) .refl _

theorem run_moveClock (hok : LetsGo script ok) (hst : s.Still script) {time : Nat}
    (h : ∀ e ∈ s.deadlines, s.now < e → time ≤ e) (hle : s.now ≤ time) :
    Run script ok s (s.moveClock script time) := by
  have hp : s.prompt script (.pass (time - s.now)) = true := by
    rw [State.prompt, Bool.and_eq_true, List.all_eq_true]
    refine ⟨by rw [show s.move? script = none from hst]; rfl, fun e he => ?_⟩
    have := h e he
    simp
    omega
  exact (Run.single (hok.pass _ _ hp) rfl).trans (run_rest hok _)

/-- The clock moves in a prompt run, which ends at rest and in time. -/
theorem run_till (hok : LetsGo script ok) {s : State} (hf : s.Fit) (hst : s.Still script)
    {time : Nat} (hle : s.now ≤ time) : Run script ok s (s.till script time) ∧
      (s.till script time).Still script ∧ (s.till script time).now = time := by
  by_cases h : ∀ e ∈ s.deadlines, s.now < e → time < e
  · rw [till_last h]
    exact ⟨run_moveClock hok hst (fun e he hlt => Nat.le_of_lt (h e he hlt)) hle,
      still_moveClock hf time, now_moveClock script hle⟩
  · rcases hd : s.nextDeadline? with _ | d
    · refine absurd (fun e he hlt => ?_) h
      have := nextDeadline?_eq_none hd e he
      omega
    · obtain ⟨hm, hlt, hmin⟩ := nextDeadline?_eq_some_iff.mp hd
      have hdt : d ≤ time := by
        rcases Nat.lt_or_ge time d with hlt | hge
        · refine absurd (fun e he hne => ?_) h
          exact Nat.lt_of_lt_of_le hlt (hmin e he hne)
        · exact hge
      have hw := work_nextDeadline_lt script hf hd
      have hnow := now_moveClock script (Nat.le_of_lt hlt)
      obtain ⟨hr, hst', ht⟩ := run_till hok (fit_moveClock hf d) (still_moveClock hf d)
        (show (s.moveClock script d).now ≤ time by omega)
      rw [till_hop hf hd hdt]
      exact ⟨(run_moveClock hok hst hmin (Nat.le_of_lt hlt)).trans hr, hst', ht⟩
termination_by s.work

theorem run_wait (hok : LetsGo script ok) (hf : s.Fit) (hst : s.Still script) (ms : Nat) :
    Run script ok s (s.wait script ms) ∧ (s.wait script ms).Still script ∧
      (s.wait script ms).now = s.now + ms :=
  run_till hok hf hst (Nat.le_add_right _ _)

theorem run_perform (hok : LetsGo script ok) {actions : List Action}
    (ha : ∀ a ∈ actions, ∀ s, ok s a = true) : Run script ok s (s.perform script actions) := by
  refine .trans ?_ (run_rest hok _)
  induction actions generalizing s with
  | nil => exact .refl
  | cons a actions ih =>
    have hstep : Run script ok s ((step script s a).getD s) := by
      rcases h : step script s a with _ | s'
      · exact .refl
      · exact Run.single (ha a (List.mem_cons_self ..) s) h
    exact hstep.trans (ih fun b hb => ha b (List.mem_cons_of_mem a hb))

end

end DevServer.Restart
