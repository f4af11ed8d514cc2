import DevServer.Proofs.Restart.Fates
import DevServer.Proofs.Restart.Tasks

/-!
# Client builds wait for restarts

A task with a client build to announce (`Errand.settleMs?`) asks for the restart in flight when it is
first polled. `Gated` says how it stands from then on: it waits for the restart `n`, or settles, or is
over. Under a prompt schedule (`exact`) it goes on at the very moment it can, so it is released when
its restart has ended and `ms` have passed (`client_builds_wait`).
-/

namespace DevServer.Restart

/-- How long a client build has to settle, if the task has one to announce. -/
def Errand.settleMs? : Errand → Option Nat
  | .releaseClient ms => some ms
  | .handle e ms => if e.success && e.target == .client then some ms else none
  | .restartWorker | .receive _ | .shutdown => none

/-- What such a task ends with when it did not wait, or waited for a restart that gave `o`. -/
def Errand.released : Errand → Option Outcome → Result
  | .releaseClient _, none => .immediate
  | .releaseClient _, some o => .afterRestart o
  | .handle _ _, _ | .restartWorker, _ | .receive _, _ | .shutdown, _ => .handled

/-- The state is the same but for what has been noted, and that ends no task. -/
structure Remarks (s s' : State) : Prop where
  now : s'.now = s.now
  tasks : s'.tasks = s.tasks
  history : ∃ k, s'.history = s.history ++ k ∧ ∀ u j r, (u, .taskEnded j r) ∉ k

namespace Remarks

variable {s s' s'' : State}

theorem refl (s : State) : Remarks s s := ⟨rfl, rfl, [], by simp, nofun⟩

theorem note {x : Happening} (hx : x.isTaskEnd = false) : Remarks s (s.note x) := by
  refine ⟨rfl, rfl, _, rfl, fun u j r hm => ?_⟩
  cases List.mem_singleton.mp hm
  cases hx

theorem trans (h1 : Remarks s s') (h2 : Remarks s' s'') : Remarks s s'' := by
  obtain ⟨k, hk, hke⟩ := h1.history
  obtain ⟨l, hl, hle⟩ := h2.history
  refine ⟨h2.now.trans h1.now, h2.tasks.trans h1.tasks, k ++ l, by rw [hl, hk, List.append_assoc],
    fun u j r hm => ?_⟩
  exact (List.mem_append.mp hm).elim (hke u j r) (hle u j r)

end Remarks

/-! ## How a client build goes on -/

section
variable {s : State} {task n ms : Nat} {o : Outcome} {er : Errand}

theorem settleMs?_handle {e : Build.Event} {m : Nat} (h : (Errand.handle e m).settleMs? = some ms) :
    e.success = true ∧ e.target = .client ∧ m = ms := by
  simp only [Errand.settleMs?] at h
  split at h
  · next hc =>
    cases h
    simpa using hc
  · cases h

/-- It asks for the restart in flight, and is over if there is none. -/
theorem startTask_client (s : State) (task : Nat) (h : er.settleMs? = some ms) :
    ∃ s₀, Remarks s s₀ ∧ s.startTask task er = match s.tracker.inFlight? with
      | some n => (s.note (.clientWaits n)).setStage task (.waiting n)
      | none => s₀.endTask task (er.released none) := by
  cases er with
  | releaseClient m => exact ⟨s, .refl s, rfl⟩
  | handle e m =>
    obtain ⟨hsucc, htar, -⟩ := settleMs?_handle h
    refine ⟨s.note (.published (.clientBuilt e.build)), .note rfl, ?_⟩
    simp [State.startTask, State.handleFresh, hsucc, htar]
    rfl
  | restartWorker | receive _ | shutdown => cases h

theorem poll_waiting {t : Task} (ht : s.tasks[task]? = some t) (hg : t.stage = .waiting n) :
    s.poll task = (s.tracker.settled? n).bind fun o => s.restartSettled task n o t.errand := by
  simp [State.poll, ht, hg]

theorem poll_settling {t : Task} {due : Nat} (ht : s.tasks[task]? = some t)
    (hg : t.stage = .settling due o) :
    s.poll task = if due ≤ s.now then s.clientSettled task o t.errand else none := by
  simp [State.poll, ht, hg]

theorem restartSettled_client (h : er.settleMs? = some ms) :
    s.restartSettled task n o er = some (s.settleClient task n ms o) := by
  cases er with
  | releaseClient m => cases h; rfl
  | handle e m =>
    obtain ⟨-, htar, rfl⟩ := settleMs?_handle h
    simp [State.restartSettled, htar]
  | restartWorker | receive _ | shutdown => cases h

theorem settleClient_eq (s : State) (task n ms : Nat) (o : Outcome) : ∃ s₀, Remarks s s₀ ∧
    s.settleClient task n ms o = s₀.setStage task (.settling (s.now + ms) o) := by
  cases o with
  | succeeded => exact ⟨s, .refl s, rfl⟩
  | failed reason => exact ⟨s.note (.clientWaitFailed n reason), .note rfl, rfl⟩

theorem clientSettled_client (s : State) (task : Nat) (o : Outcome) (h : er.settleMs? = some ms) :
    ∃ s₀, Remarks s s₀ ∧
    s.clientSettled task o er = some (s₀.endTask task (er.released (some o))) := by
  cases er with
  | releaseClient m => exact ⟨s, .refl s, rfl⟩
  | handle e m => exact ⟨_, (Remarks.note rfl).trans (.note rfl), rfl⟩
  | restartWorker | receive _ | shutdown => cases h

end

/-! ## The invariant -/

/-- How a client build stands that asked at the time `t` and was told to wait for the restart `n`,
when `k` has happened since. -/
inductive Gate (exact : Prop) (task t ms n : Nat) (s : State) (k : History) : Stage → Prop where
  | waiting (h : exact → ∀ e o, s.history.Settles n e o → s.now = max t e) :
    Gate exact task t ms n s k (.waiting n)
  | settling {e due : Nat} {o : Outcome} (ho : s.history.Settles n e o) (hd : max t e + ms ≤ due)
    (h : exact → due = max t e + ms ∧ s.now ≤ due) : Gate exact task t ms n s k (.settling due o)
  | ended {u : Nat} {r : Result} (h : (u, .taskEnded task r) ∈ k) :
    Gate exact task t ms n s k (.ended r)
  | cancelled : Gate exact task t ms n s k .cancelled

/-- The task ends with what the restart `n` gave, `ms` after the restart ended or it was asked. -/
def Released (exact : Prop) (t ms n : Nat) (er : Errand) (h : History) (u : Nat) (r : Result) :
    Prop :=
  ∃ e o, h.Settles n e o ∧ r = er.released (some o) ∧ max t e + ms ≤ u ∧ (exact → u = max t e + ms)

/-- The invariant of a client build that was told to wait, when `k` has happened since. -/
structure Gated (exact : Prop) (task t ms n : Nat) (er : Errand) (k : History) (s : State) :
    Prop where
  asked : t ≤ s.now
  stage : ∃ tk, s.tasks[task]? = some tk ∧ tk.errand = er ∧ Gate exact task t ms n s k tk.stage
  told : ∀ u r, (u, .taskEnded task r) ∈ k → Released exact t ms n er s.history u r

theorem History.Settles.append {h : History} {n e : Nat} {o : Outcome} (hs : h.Settles n e o)
    (k : History) : History.Settles (h ++ k) n e o := by
  obtain ⟨x, f, hx, hxf, hf⟩ := hs
  exact ⟨x, f, List.mem_append_left _ hx, hxf, hf⟩

theorem Released.append {exact : Prop} {t ms n u : Nat} {er : Errand} {h : History} {r : Result}
    (hr : Released exact t ms n er h u r) (k : History) :
    Released exact t ms n er (h ++ k) u r := by
  obtain ⟨e, o, hs, hr⟩ := hr
  exact ⟨e, o, hs.append k, hr⟩

/-- What happens now changes nothing for a client build that stays where it is. -/
theorem Gate.append {exact : Prop} {task t ms n : Nat} {k l : History} {s s' : State} {g : Stage}
    (hg : Gate exact task t ms n s k g) (hn : s'.now = s.now)
    (hl : s'.history = s.history ++ l) (hnow : ∀ u x, (u, x) ∈ l → u = s.now) (ht : t ≤ s.now) :
    Gate exact task t ms n s' (k ++ l) g := by
  cases hg with
  | waiting h =>
    refine .waiting fun hx e o ho => ?_
    obtain ⟨x, f, hm, hxf, hfo⟩ := ho
    rw [hl] at hm
    rw [hn]
    rcases List.mem_append.mp hm with hm | hm
    · exact h hx e o ⟨x, f, hm, hxf, hfo⟩
    · rw [hnow e x hm, Nat.max_eq_right ht]
  | settling ho hd h =>
    refine .settling (by rw [hl]; exact ho.append l) hd fun hx => ?_
    rw [hn]; exact h hx
  | ended h => exact .ended (List.mem_append_left _ h)
  | cancelled => exact .cancelled

/-- The clock moves, if exactly then no further than to where the client build goes on. -/
theorem Gate.passed {exact : Prop} {task t ms n p : Nat} {k : History} {s : State} {g : Stage}
    (hg : Gate exact task t ms n s k g)
    (hw : exact → g = .waiting n → ∀ e o, ¬s.history.Settles n e o)
    (hd : exact → ∀ due o, g = .settling due o → s.now + p ≤ due) :
    Gate exact task t ms n { s with now := s.now + p } k g := by
  cases hg with
  | waiting h => exact .waiting fun hx e o ho => absurd ho (hw hx rfl e o)
  | settling ho hle h => exact .settling ho hle fun hx => ⟨(h hx).1, hd hx _ _ rfl⟩
  | ended h => exact .ended h
  | cancelled => exact .cancelled

namespace Gated

variable {script : Script} {exact : Prop} {task t ms n : Nat} {er : Errand} {k l : History}
  {s s' : State}

/-- A step that leaves the task alone and in which nothing happens but now. -/
theorem spared (hg : Gated exact task t ms n er k s) {i : Nat} (hi : task ≠ i)
    (ht : Touches i s s') (hl : s'.history = s.history ++ l) (hnow : ∀ u x, (u, x) ∈ l → u = s.now) :
    Gated exact task t ms n er (k ++ l) s' := by
  obtain ⟨tk, htk, her, hgate⟩ := hg.stage
  obtain ⟨tk', htk', -, hkeep⟩ := ht.task task tk htk
  obtain rfl := hkeep hi
  refine ⟨by rw [ht.now]; exact hg.asked, ⟨tk', htk', her, ?_⟩, fun u r hm => ?_⟩
  · exact hgate.append ht.now hl hnow hg.asked
  · rw [hl]
    rcases List.mem_append.mp hm with hm | hm
    · exact (hg.told u r hm).append l
    · obtain ⟨l', hl', hend⟩ := ht.ended
      obtain rfl : l = l' := List.append_cancel_left (hl.symm.trans hl')
      exact absurd (hend u task r hm) hi

/-- The clock moves, under a prompt schedule only while the client build cannot go on. -/
theorem passed (hg : Gated exact task t ms n er k s) (hs : Reachable script s)
    (hm : er.settleMs? = some ms) {p : Nat} (hp : exact → s.prompt script (.pass p) = true) :
    Gated exact task t ms n er k { s with now := s.now + p } := by
  obtain ⟨tk, htk, her, hgate⟩ := hg.stage
  have hrest (hx : exact) : s.poll task = none := by
    have hmove := (Bool.and_eq_true_iff.mp (hp hx)).1
    rw [Option.isNone_iff_eq_none, State.move?, List.findSome?_eq_none_iff] at hmove
    refine hmove (.poll task) ?_
    have hlt := (List.getElem?_eq_some_iff.mp htk).1
    simp [State.moves, hlt]
  refine ⟨Nat.le_trans hg.asked (Nat.le_add_right _ _), ⟨tk, htk, her, hgate.passed ?_ ?_⟩, hg.told⟩
  · intro hx hst e o ho
    have hpoll := hrest hx
    rw [poll_waiting htk hst, hs.settled?_iff.mpr ⟨e, ho⟩, Option.bind_some, her,
      restartSettled_client hm] at hpoll
    cases hpoll
  · intro hx due o hst
    have hall := (Bool.and_eq_true_iff.mp (hp hx)).2
    rw [List.all_eq_true] at hall
    have hmem : due ∈ s.deadlines := by
      refine List.mem_append_left _ (List.mem_filterMap.mpr ⟨tk, List.mem_of_getElem? htk, ?_⟩)
      rw [hst]
    have hdue : due ≤ s.now ∨ s.now + p ≤ due := by simpa using hall due hmem
    refine hdue.resolve_left fun hle => ?_
    have hpoll := hrest hx
    obtain ⟨s₀, -, hc⟩ := clientSettled_client s task o hm
    rw [poll_settling htk hst, if_pos hle, her, hc] at hpoll
    cases hpoll

/-- The task is given up. -/
theorem cancelled (hg : Gated exact task t ms n er k s) :
    (s.cancel task).history = s.history ∧ Gated exact task t ms n er k (s.cancel task) := by
  obtain ⟨tk, htk, her, hgate⟩ := hg.stage
  unfold State.cancel
  split
  · split
    · exact ⟨rfl, hg⟩
    · refine ⟨rfl, hg.asked, ⟨{ tk with stage := .cancelled }, ?_, her, .cancelled⟩, hg.told⟩
      simp [State.setStage, htk]
  · exact ⟨rfl, hg⟩

/-- The task takes a new stage. -/
theorem staged (hg : Gated exact task t ms n er k s) (hn : s'.now = s.now)
    (hl : s'.history = s.history ++ l) {tk : Task} (htk : s.tasks[task]? = some tk) {g : Stage}
    (htk' : s'.tasks[task]? = some { tk with stage := g })
    (hgate : Gate exact task t ms n s' (k ++ l) g)
    (hend : ∀ u r, (u, .taskEnded task r) ∈ l → Released exact t ms n er s'.history u r) :
    Gated exact task t ms n er (k ++ l) s' := by
  obtain ⟨tk₀, htk₀, her, -⟩ := hg.stage
  obtain rfl : tk = tk₀ := by rw [htk] at htk₀; exact Option.some.inj htk₀
  refine ⟨by rw [hn]; exact hg.asked, ⟨_, htk', her, hgate⟩, fun u r hm => ?_⟩
  rcases List.mem_append.mp hm with hm | hm
  · rw [hl]; exact (hg.told u r hm).append l
  · exact hend u r hm

/-- The restart has ended, and the client build settles. -/
theorem settled (hg : Gated exact task t ms n er k s) (hs : Reachable script s)
    {tk : Task} (htk : s.tasks[task]? = some tk) {o : Outcome}
    (ho : s.tracker.settled? n = some o)
    (hx : exact → ∀ e o, s.history.Settles n e o → s.now = max t e) :
    ∃ l, (s.settleClient task n ms o).history = s.history ++ l ∧
      Gated exact task t ms n er (k ++ l) (s.settleClient task n ms o) := by
  obtain ⟨e, ho⟩ := hs.settled?_iff.mp ho
  obtain ⟨s₀, hr, heq⟩ := settleClient_eq s task n ms o
  obtain ⟨l, hl, hend⟩ := hr.history
  have hle : max t e ≤ s.now := by
    obtain ⟨x, -, hx, -⟩ := ho
    exact Nat.max_le.mpr ⟨hg.asked, hs.timely.past e x hx⟩
  rw [heq]
  refine ⟨l, hl, hg.staged hr.now hl htk (g := .settling (s.now + ms) o) ?_ ?_ ?_⟩
  · simp [State.setStage, hr.tasks, htk]
  · have ho' : History.Settles (s₀.setStage task (.settling (s.now + ms) o)).history n e o := by
      show History.Settles s₀.history n e o
      rw [hl]; exact ho.append l
    refine .settling ho' (Nat.add_le_add_right hle ms) fun he => ⟨by rw [hx he e o ho], ?_⟩
    show s₀.now ≤ _
    rw [hr.now]; omega
  · exact fun u r hm => absurd hm (hend u task r)

/-- The client build has settled, and the task ends. -/
theorem released (hg : Gated exact task t ms n er k s) {tk : Task}
    (htk : s.tasks[task]? = some tk) {e due : Nat} {o : Outcome} (ho : s.history.Settles n e o)
    (hd : max t e + ms ≤ due) (hx : exact → due = max t e + ms ∧ s.now ≤ due) (hdue : due ≤ s.now)
    {s₀ : State} (hr : Remarks s s₀) :
    ∃ l, (s₀.endTask task (er.released (some o))).history = s.history ++ l ∧
      Gated exact task t ms n er (k ++ l) (s₀.endTask task (er.released (some o))) := by
  obtain ⟨l, hl, hend⟩ := hr.history
  have hl' : (s₀.endTask task (er.released (some o))).history =
      s.history ++ (l ++ [(s₀.now, .taskEnded task (er.released (some o)))]) := by
    show s₀.history ++ _ = _
    rw [hl, List.append_assoc]; rfl
  refine ⟨_, hl', hg.staged hr.now hl' htk (g := .ended (er.released (some o))) ?_ ?_ ?_⟩
  · simp [State.endTask, State.note, State.setStage, hr.tasks, htk]
  · exact .ended (u := s₀.now) (by simp)
  · intro u r hm
    rcases List.mem_append.mp hm with hm | hm
    · exact absurd hm (hend u task r)
    · cases List.mem_singleton.mp hm
      rw [hl', hr.now]
      exact ⟨e, o, ho.append _, rfl, Nat.le_trans hd hdue, fun he => by have := hx he; omega⟩

/-- The task goes on. -/
theorem polled (hg : Gated exact task t ms n er k s) (hs : Reachable script s)
    (hm : er.settleMs? = some ms) (h : s.poll task = some s') :
    ∃ l, s'.history = s.history ++ l ∧ Gated exact task t ms n er (k ++ l) s' := by
  obtain ⟨tk, htk, her, hgate⟩ := hg.stage
  generalize hst : tk.stage = g at hgate
  cases hgate with
  | waiting hx =>
    rw [poll_waiting htk hst, her] at h
    obtain ⟨o, ho, h⟩ := Option.bind_eq_some_iff.mp h
    rw [restartSettled_client hm] at h
    cases h
    exact hg.settled hs htk ho hx
  | @settling e due o ho hd hx =>
    rw [poll_settling htk hst, her] at h
    split at h
    · next hdue =>
      obtain ⟨s₀, hr, hc⟩ := clientSettled_client s task o hm
      rw [hc] at h
      cases h
      exact hg.released htk ho hd hx hdue hr
    · cases h
  | ended | cancelled => simp [State.poll, htk, hst] at h

/-- **What one step preserves.** -/
theorem step (hg : Gated exact task t ms n er k s) (hs : Reachable script s)
    (hm : er.settleMs? = some ms) {a : Action} (ha : exact → s.prompt script a = true)
    (h : step script s a = some s') :
    ∃ l, s'.history = s.history ++ l ∧ Gated exact task t ms n er (k ++ l) s' := by
  by_cases hpass : ∃ p, a = .pass p
  · obtain ⟨p, rfl⟩ := hpass
    cases h
    exact ⟨[], by simp, by simpa using hg.passed hs hm ha⟩
  · by_cases hc : s.Concerns task a
    · obtain ⟨tk, htk, her, hgate⟩ := hg.stage
      rcases hc with rfl | rfl | ⟨x, hx, hxo⟩ | ⟨es, isOpen, hst⟩
      · exact hg.polled hs hm h
      · cases h
        obtain ⟨hh, hg'⟩ := hg.cancelled
        exact ⟨[], by rw [hh, List.append_nil], by rw [List.append_nil]; exact hg'⟩
      · -- it would be there to shut the coordinator down
        obtain ⟨t', ht', he⟩ := hs.claimant x hx task hxo
        rw [htk] at ht'
        cases ht'
        rw [← her, he] at hm
        cases hm
      · rw [State.stage?, htk, Option.map_some, Option.some.injEq] at hst
        rw [hst] at hgate
        cases hgate
    · obtain ⟨i, hi, ht⟩ := spares_step h (fun p hp => hpass ⟨p, hp⟩) hc
      obtain ⟨l, hmoves, hl⟩ := evolves_step h
      refine ⟨l, hl, hg.spared hi ht hl fun u x hx => Nat.le_antisymm ?_ (hmoves.le_time u x hx)⟩
      rw [← ht.now]
      exact (hs.step h).timely.past u x (by rw [hl]; exact List.mem_append_right _ hx)

/-- **What a run preserves.** -/
theorem run (hg : Gated exact task t ms n er k s) (hs : Reachable script s)
    (hm : er.settleMs? = some ms) {ok : State → Action → Bool}
    (hok : exact → ∀ s a, ok s a = true → s.prompt script a = true) (hr : Run script ok s s') :
    ∃ l, s'.history = s.history ++ l ∧ Gated exact task t ms n er (k ++ l) s' := by
  induction hr with
  | refl => exact ⟨[], by simp, by simpa using hg⟩
  | next hr ha h ih =>
    obtain ⟨l, hl, hg'⟩ := ih
    obtain ⟨l', hl', hg''⟩ := hg'.step (hr.reachable hs) hm (fun hx => hok hx _ _ ha) h
    exact ⟨l ++ l', by rw [hl', hl, List.append_assoc], by rw [← List.append_assoc]; exact hg''⟩

end Gated

/-! ## When client builds are released -/

/-- The client build that `s` polls is released where it stands, and no restart is left to wait for. -/
structure AtOnce (s s₁ : State) (task : Nat) (er : Errand) : Prop where
  stage : s₁.stage? task = some (.ended (er.released none))
  last : s₁.history.getLast? = some (s.now, .taskEnded task (er.released none))
  closed : ∀ m ∈ s.history.created, ∃ v, v ≤ s.now ∧ (m, v) ∈ s.history.ends

/-- The client build that `s` polls waits for the restart `n`. -/
structure HeldBack (script : Script) (s s₁ : State) (task ms n : Nat) (er : Errand) : Prop where
  latest : n ∈ s.history.created ∧ ∀ m ∈ s.history.created, m ≤ n
  stage : s₁.stage? task = some (.waiting n)
  /-- It is released with what the restart gave, not before all restarts it could see have ended and
  it has settled since. -/
  released : ∀ s₂ k u r, Run script anyAction s₁ s₂ → s₂.history = s₁.history ++ k →
    (u, .taskEnded task r) ∈ k →
      ∃ e o, s₂.history.Settles n e o ∧ s₂.tracker.settled? n = some o ∧
        r = er.released (some o) ∧ max s.now e + ms ≤ u ∧
        ∀ m ∈ s.history.created, ∃ v, v ≤ max s.now e ∧ (m, v) ∈ s₂.history.ends
  /-- In a prompt run it is released at that very moment, unless it is given up. -/
  punctual : ∀ s₂ k e o, Run script (State.prompt script) s₁ s₂ → s₂.history = s₁.history ++ k →
    s₂.history.Settles n e o →
      (∀ u r, (u, .taskEnded task r) ∈ k → u = max s.now e + ms) ∧
      (max s.now e + ms < s₂.now →
        (max s.now e + ms, .taskEnded task (er.released (some o))) ∈ k ∨
          s₂.stage? task = some .cancelled)

section
variable {script : Script} {s s₁ : State} {task t ms n : Nat} {er : Errand}

/-- A client build that has just been told to wait. -/
theorem gated_waiting {exact : Prop} {tk : Task} (hs : Reachable script s)
    (htk : s.tasks[task]? = some tk) :
    Gated exact task s.now ms n tk.errand []
      ((s.note (.clientWaits n)).setStage task (.waiting n)) := by
  refine ⟨Nat.le_refl _, ⟨{ tk with stage := .waiting n }, ?_, rfl, ?_⟩, nofun⟩
  · simp [State.setStage, State.note, htk]
  · refine .waiting fun _ e o ho => ?_
    obtain ⟨x, f, hx, hxf, -⟩ := ho
    rcases List.mem_append.mp hx with hx | hx
    · exact (Nat.max_eq_left (hs.timely.past e x hx)).symm
    · cases List.mem_singleton.mp hx
      cases hxf

theorem heldBack_of_gated (hs : Reachable script s₁) (hm : er.settleMs? = some ms)
    (hn : n ∈ s.history.created ∧ ∀ m ∈ s.history.created, m ≤ n)
    (hc : ∀ m ∈ s.history.created, 0 < m)
    (hst : s₁.stage? task = some (.waiting n))
    (hg : ∀ exact, Gated exact task s.now ms n er [] s₁) : HeldBack script s s₁ task ms n er := by
  refine ⟨hn, hst, fun s₂ k u r hr hk hu => ?_, fun s₂ k e o hr hk ho => ?_⟩
  · obtain ⟨l, hl, hg₂⟩ := (hg False).run hs hm (fun h => absurd h id) hr
    obtain rfl : k = l := List.append_cancel_left (hk.symm.trans hl)
    obtain ⟨e, o, ho, hr', hle, -⟩ := hg₂.told u r hu
    have hs₂ := hr.reachable hs
    refine ⟨e, o, ho, hs₂.settled?_iff.mpr ⟨e, ho⟩, hr', hle, fun m hm => ?_⟩
    obtain ⟨v, hv, hmv⟩ := hs₂.ends_before ho m (mem_upTo.mpr ⟨hc m hm, hn.2 m hm⟩)
    exact ⟨v, Nat.le_trans hv (Nat.le_max_right _ _), hmv⟩
  · obtain ⟨l, hl, hg₂⟩ := (hg True).run hs hm (fun _ _ _ h => h) hr
    obtain rfl : k = l := List.append_cancel_left (hk.symm.trans hl)
    have hs₂ := hr.reachable hs
    have htold (u : Nat) (r : Result) (hu : (u, .taskEnded task r) ∈ k) :
        u = max s.now e + ms ∧ r = er.released (some o) := by
      obtain ⟨e', o', ho', hr', -, hx⟩ := hg₂.told u r hu
      obtain ⟨rfl, rfl⟩ := hs₂.settles_unique ho ho'
      exact ⟨hx trivial, hr'⟩
    refine ⟨fun u r hu => (htold u r hu).1, fun hlt => ?_⟩
    obtain ⟨tk, htk, -, hgate⟩ := hg₂.stage
    generalize hst₂ : tk.stage = g at hgate
    cases hgate with
    | waiting h =>
      have := h trivial e o ho
      omega
    | settling ho' hd h =>
      obtain ⟨rfl, rfl⟩ := hs₂.settles_unique ho ho'
      have := h trivial
      omega
    | ended h =>
      obtain ⟨rfl, rfl⟩ := htold _ _ h
      exact .inl h
    | cancelled => exact .inr (by rw [State.stage?, htk, Option.map_some, hst₂])

theorem Reachable.mem_created (hs : Reachable script s) {m : Nat} :
    m ∈ s.history.created ↔ 0 < m ∧ m ≤ s.tracker.created := by
  have hc : s.history.created = upTo s.tracker.created := hs.ordered.tally.created
  rw [hc, mem_upTo]

/-- The restart in flight is the one that was requested last, if that shows no outcome. -/
theorem Reachable.inFlight?_eq (hs : Reachable script s) : s.tracker.inFlight? =
    if s.tracker.created = 0 ∨ s.tracker.isSettled s.tracker.created = true then none
    else some s.tracker.created := by
  have hc : s.tracker.current? =
      if s.tracker.created = 0 then none else some s.tracker.created := hs.ordered.current
  rw [Tracker.inFlight?, hc]
  by_cases h0 : s.tracker.created = 0
  · simp [h0]
  · rcases hb : s.tracker.isSettled s.tracker.created <;> simp [h0, hb]

/-- Nobody is in flight only when all restarts have come to their ends. -/
theorem Reachable.closed_of_inFlight? (hs : Reachable script s) (h : s.tracker.inFlight? = none) :
    ∀ m ∈ s.history.created, ∃ v, v ≤ s.now ∧ (m, v) ∈ s.history.ends := by
  intro m hm
  obtain ⟨hpos, hle⟩ := hs.mem_created.mp hm
  have hset : s.tracker.isSettled s.tracker.created = true := by
    rw [hs.inFlight?_eq] at h
    split at h
    · next hc => exact hc.resolve_left (by omega)
    · cases h
  obtain ⟨e, k, he⟩ := hs.isSettled_iff.mp hset
  have ho : s.history.Settles s.tracker.created e k.outcome := ⟨_, _, he, rfl, rfl⟩
  obtain ⟨v, hv, hmv⟩ := hs.ends_before ho m (mem_upTo.mpr ⟨hpos, hle⟩)
  exact ⟨v, Nat.le_trans hv (hs.timely.past e _ he), hmv⟩

/-- Without a panic, a restart that is in flight has not come to its end. -/
theorem Reachable.not_closed_of_inFlight? (hs : Reachable script s)
    (ha : ∀ u m, (u, .abandoned m) ∉ s.history) (h : s.tracker.inFlight? = some n) :
    n ∈ s.history.created ∧ n ∉ s.history.closed := by
  rw [hs.inFlight?_eq] at h
  split at h
  · cases h
  · next hc =>
    cases h
    rw [not_or] at hc
    refine ⟨hs.mem_created.mpr ⟨by omega, Nat.le_refl _⟩, fun hn => hc.2 ?_⟩
    obtain ⟨v, hv⟩ := History.mem_closed.mp hn
    rcases History.mem_ends.mp hv with ⟨k, hk⟩ | hk
    · exact hs.isSettled_iff.mpr ⟨v, k, hk⟩
    · exact absurd hk (ha v _)

end

/-- **When client builds are released.** A client build is released at once, and then all restarts
that were requested before have ended, or it waits for the last of them and settles. Unless a restart
has panicked, it is released at once exactly if all restarts requested before have ended. -/
theorem client_builds_wait {script : Script} {s s₁ : State} {task ms : Nat} {t : Task}
    (hs : Reachable script s) (ht : s.tasks[task]? = some t) (hg : t.stage = .fresh)
    (hm : t.errand.settleMs? = some ms) (hp : s.poll task = some s₁) :
    (AtOnce s s₁ task t.errand ∨ ∃ n, HeldBack script s s₁ task ms n t.errand) ∧
      ((∀ u m, (u, .abandoned m) ∉ s.history) →
        (AtOnce s s₁ task t.errand ↔ ∀ m ∈ s.history.created, m ∈ s.history.closed)) := by
  have hs₁ : Reachable script s₁ := hs.step (a := .poll task) hp
  rw [poll_fresh ht hg] at hp
  obtain ⟨s₀, hr, heq⟩ := startTask_client s task hm
  rw [heq] at hp
  rcases hf : s.tracker.inFlight? with _ | n <;> rw [hf] at hp
  · obtain rfl := Option.some.inj hp
    have honce : AtOnce s (s₀.endTask task (t.errand.released none)) task t.errand := by
      refine ⟨?_, ?_, hs.closed_of_inFlight? hf⟩
      · simp [State.stage?, State.endTask, State.note, State.setStage, hr.tasks, ht]
      · simp [State.endTask, State.note, State.setStage, hr.now]
    refine ⟨.inl honce, fun _ => iff_of_true honce fun m hm => ?_⟩
    obtain ⟨v, -, hv⟩ := honce.closed m hm
    exact History.mem_closed.mpr ⟨v, hv⟩
  · obtain rfl := Option.some.inj hp
    have hn : n = s.tracker.created ∧ 0 < n := by
      rw [hs.inFlight?_eq] at hf
      split at hf
      · cases hf
      · next hc => cases hf; omega
    have hst : ((s.note (.clientWaits n)).setStage task (.waiting n)).stage? task =
        some (.waiting n) := by
      simp [State.stage?, State.note, State.setStage, ht]
    refine ⟨.inr ⟨n, ?_⟩, fun ha => iff_of_false ?_ ?_⟩
    · refine heldBack_of_gated hs₁ hm ?_ ?_ hst fun _ => gated_waiting hs ht
      · exact ⟨hs.mem_created.mpr (by omega), fun m hm => by have := hs.mem_created.mp hm; omega⟩
      · exact fun m hm => (hs.mem_created.mp hm).1
    · intro honce
      have := honce.stage
      rw [hst] at this
      cases this
    · intro hall
      obtain ⟨hcr, hov⟩ := hs.not_closed_of_inFlight? ha hf
      exact hov (hall n hcr)

/-- A client build that asks while the first restart is running is released a second after it. -/
theorem client_builds_wait_behind_restart : ∃ s s₁ s₂ : State, Reachable ⟨[], []⟩ s ∧
    s.poll 0 = some s₁ ∧ Run ⟨[], []⟩ (State.prompt ⟨[], []⟩) s₁ s₂ ∧
    HeldBack ⟨[], []⟩ s s₁ 0 1000 1 (.releaseClient 1000) ∧
    (1500, .taskEnded 0 (.afterRestart .succeeded)) ∈ s₂.history := by
  obtain ⟨s, s₁, s₂, hf, hp, hf₂, ht, hw, hh⟩ : ∃ s s₁ s₂ : State,
      State.new.follow? ⟨[], []⟩ anyAction
        [.request, .claim 1, .turn, .pass 100, .spawn (.releaseClient 1000)] = some s ∧
      s.poll 0 = some s₁ ∧
      s₁.follow? ⟨[], []⟩ (State.prompt ⟨[], []⟩)
        [.pass 400, .turn, .poll 0, .pass 1000, .poll 0] = some s₂ ∧
      s.tasks[0]? = some ⟨.releaseClient 1000, .fresh, some 0⟩ ∧
      s₁.stage? 0 = some (.waiting 1) ∧
      s₂.history.getLast? = some (1500, .taskEnded 0 (.afterRestart .succeeded)) :=
    ⟨_, _, _, rfl, rfl, rfl, rfl, rfl, rfl⟩
  have hs := (run_follow? hf).reachable .new
  refine ⟨s, s₁, s₂, hs, hp, run_follow? hf₂, ?_, List.mem_of_getLast? hh⟩
  rcases (client_builds_wait hs ht rfl rfl hp).1 with honce | ⟨n, hheld⟩
  · rw [honce.stage] at hw; cases hw
  · have hn := hheld.stage
    rw [hw] at hn
    cases hn
    exact hheld

end DevServer.Restart
