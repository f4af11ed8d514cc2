import DevServer.Proofs.Restart.Rest

/-!
# The core of a dev loop

`State.core` is what is left of a state when whatever only waits is left out: client builds, how far
those who wait for a restart have come, and what tasks do on their own account. It is a state again,
in which the tasks that are left are counted anew (`State.rank`). An operation on a state does the
same to its core (`core_request`, `core_callStart`, ...), or nothing at all (`core_note_task`,
`core_setStage_same`).
-/

namespace DevServer.Restart

/-! ## Definitions -/

def Owner.renumber (f : Nat → Nat) : Owner → Owner
  | .restart ticket => .restart ticket
  | .shutdown task => .shutdown (f task)

def Claim.renumber (f : Nat → Nat) : Claim → Claim
  | .enters owner => .enters (owner.renumber f)
  | .stops owner worker due fault => .stops (owner.renumber f) worker due fault
  | .starts ticket due outcome => .starts ticket due outcome

/-- What a happening is to those who do not care for tasks; whose shutdown stops a worker is left
out. -/
def Happening.core? : Happening → Option Happening
  | .stopCalled owner worker => some (.stopCalled (owner.renumber fun _ => 0) worker)
  | .stopReturned owner worker fault =>
    some (.stopReturned (owner.renumber fun _ => 0) worker fault)
  | x => if x.ofTask then none else some x

def History.core (h : History) : History := h.filterMap fun (t, x) => x.core?.map (t, ·)

/-- Whoever has started to wait for a restart need not be there any more. -/
def Stage.core : Stage → Stage
  | .fresh => .fresh
  | .claiming => .claiming
  | .receiving events isOpen => .receiving (events.filter (·.target == .server)) isOpen
  | .waiting _ | .settling _ _ | .ended _ | .cancelled => .cancelled

def Task.core? (t : Task) : Option Task :=
  if t.errand.forClient then none else some ⟨t.errand, t.stage.core, none⟩

/-- How many of the tasks before the `i`-th are not for client builds. -/
def rank (tasks : List Task) (i : Nat) : Nat := (tasks.take i).countP (!·.errand.forClient)

namespace State

def rank (s : State) (i : Nat) : Nat := Restart.rank s.tasks i

/-- What is left of a state without those who only wait. -/
def core (s : State) : State :=
  { s with
    line := s.line.map (·.renumber s.rank)
    tasks := s.tasks.filterMap Task.core?
    inbox := s.inbox.map s.rank
    history := s.history.core }

end State

/-! ## Tasks -/

section
variable {l k : List Task} {i j : Nat} {t u : Task} {g : Stage}

theorem Task.core?_of_client (h : t.errand.forClient = true) : t.core? = none := if_pos h

theorem Task.core?_of_not_client (h : t.errand.forClient = false) :
    t.core? = some ⟨t.errand, t.stage.core, none⟩ := by
  rw [core?, h]; rfl

@[simp] theorem Stage.core_core (g : Stage) : g.core.core = g.core := by
  cases g <;> simp [core]

theorem Task.core?_core? (t : Task) : t.core?.bind Task.core? = t.core? := by
  cases h : t.errand.forClient with
  | true => rw [core?_of_client h]; rfl
  | false => simp [core?, h]

theorem length_filterMap_core? (l : List Task) :
    (l.filterMap Task.core?).length = l.countP (!·.errand.forClient) := by
  rw [List.length_filterMap_eq_countP]
  congr 1
  funext t
  rw [Task.core?]
  cases t.errand.forClient <;> rfl

theorem rank_append (hi : i ≤ l.length) : rank (l ++ k) i = rank l i := by
  rw [rank, List.take_append_of_le_length hi, rank]

theorem rank_length (l : List Task) : rank l l.length = (l.filterMap Task.core?).length := by
  rw [rank, List.take_length, length_filterMap_core?]

theorem rank_le (l : List Task) (i : Nat) : rank l i ≤ (l.filterMap Task.core?).length := by
  rw [length_filterMap_core?]
  exact (List.take_sublist i l).countP_le

theorem rank_succ (ht : l[i]? = some t) :
    rank l (i + 1) = rank l i + if t.errand.forClient then 0 else 1 := by
  rw [rank, List.take_add_one, ht, List.countP_append, rank]
  cases h : t.errand.forClient <;> simp [h]

/-- Ranks go by errands. -/
theorem rank_congr (h : ∀ (j : Nat) (t : Task), l[j]? = some t →
    ∃ t' : Task, k[j]? = some t' ∧ t'.errand = t.errand)
    (hi : i ≤ l.length) : rank k i = rank l i := by
  induction i with
  | zero => rfl
  | succ i ih =>
    obtain ⟨t', ht', he⟩ := h i l[i] (List.getElem?_eq_getElem hi)
    rw [rank_succ ht', rank_succ (List.getElem?_eq_getElem hi), he, ih (Nat.le_of_lt hi)]

theorem rank_mono (h : i ≤ j) : rank l i ≤ rank l j :=
  (List.take_sublist_take_left h).countP_le

theorem rank_lt (ht : l[i]? = some t) (hc : t.errand.forClient = false) (h : i < j) :
    rank l i < rank l j := by
  have hi : rank l (i + 1) = rank l i + 1 := by rw [rank_succ ht, hc]; rfl
  have hj : rank l (i + 1) ≤ rank l j := rank_mono (Nat.succ_le_of_lt h)
  omega

theorem rank_inj (ht : l[i]? = some t) (hc : t.errand.forClient = false) (hu : l[j]? = some u)
    (hd : u.errand.forClient = false) (h : rank l i = rank l j) : i = j := by
  rcases Nat.lt_trichotomy i j with hlt | heq | hlt
  · have := rank_lt ht hc hlt; omega
  · exact heq
  · have := rank_lt hu hd hlt; omega

/-- Ranks go by errands, whatever the stages. -/
theorem rank_modify (l : List Task) (i : Nat) (g : Stage) :
    rank (l.modify i ({ · with stage := g })) = rank l := by
  have hrank (l : List Task) (j : Nat) :
      rank l j = ((l.map Task.errand).take j).countP (!·.forClient) := by
    rw [← List.map_take, List.countP_map]; rfl
  have herrand : (l.modify i ({ · with stage := g })).map Task.errand = l.map Task.errand := by
    refine List.ext_getElem? fun n => ?_
    rw [List.getElem?_map, List.getElem?_map, List.getElem?_modify]
    cases l[n]? <;> split <;> rfl
  funext j
  rw [hrank, herrand, ← hrank]

/-- The core's tasks are all there. -/
theorem rank_core (h : j ≤ (l.filterMap Task.core?).length) :
    rank (l.filterMap Task.core?) j = j := by
  have hall : ∀ u ∈ (l.filterMap Task.core?).take j, (!u.errand.forClient) = true := by
    intro u hu
    obtain ⟨t, -, ht⟩ := List.mem_filterMap.mp (List.mem_of_mem_take hu)
    cases hc : t.errand.forClient with
    | true => rw [Task.core?_of_client hc] at ht; cases ht
    | false => rw [Task.core?_of_not_client hc] at ht; cases ht; simp [hc]
  rw [rank, List.countP_eq_length.mpr hall, List.length_take, Nat.min_eq_left h]

theorem getElem?_core (ht : l[i]? = some t) (hc : t.errand.forClient = false) :
    (l.filterMap Task.core?)[rank l i]? = some ⟨t.errand, t.stage.core, none⟩ := by
  induction l generalizing i with
  | nil => cases ht
  | cons u l ih =>
    cases i with
    | zero => cases ht; simp [rank, Task.core?_of_not_client hc]
    | succ i =>
      have hi := ih ht
      cases hu : u.errand.forClient with
      | true => simpa [rank, Task.core?_of_client hu, hu] using hi
      | false => simpa [rank, Task.core?_of_not_client hu, hu] using hi

theorem core_modify (ht : l[i]? = some t) (hc : t.errand.forClient = false) (g : Stage) :
    (l.modify i ({ · with stage := g })).filterMap Task.core? =
      (l.filterMap Task.core?).modify (rank l i) ({ · with stage := g.core }) := by
  induction l generalizing i with
  | nil => cases ht
  | cons u l ih =>
    cases i with
    | zero =>
      cases ht
      simp [rank, Task.core?_of_not_client hc, Task.core?_of_not_client (t := ⟨_, g, _⟩) hc]
    | succ i =>
      have hi := ih ht
      cases hu : u.errand.forClient with
      | true => simpa [rank, Task.core?_of_client hu, hu] using hi
      | false => simpa [rank, Task.core?_of_not_client hu, hu] using hi

theorem core_modify_same (ht : l[i]? = some t)
    (h : t.errand.forClient = true ∨ g.core = t.stage.core) :
    (l.modify i ({ · with stage := g })).filterMap Task.core? = l.filterMap Task.core? := by
  have hsame : Task.core? { t with stage := g } = t.core? := by
    rcases h with h | h
    · rw [Task.core?_of_client h, Task.core?_of_client (t := { t with stage := g }) h]
    · simp only [Task.core?, h]
  induction l generalizing i with
  | nil => cases ht
  | cons u l ih =>
    cases i with
    | zero => cases ht; simp only [List.modify_zero_cons, List.filterMap_cons, hsame]
    | succ i => simp only [List.modify_succ_cons, List.filterMap_cons, ih ht]

end

/-! ## Operations -/

section
variable {script : Script} {s s' : State} {i : Nat} {t : Task} {g : Stage}

@[simp] theorem rank_setStage (s : State) (i : Nat) (g : Stage) : (s.setStage i g).rank = s.rank :=
  rank_modify s.tasks i g

theorem Happening.core?_of_task {x : Happening} (h : x.ofTask = true) : x.core? = none := by
  unfold core?
  split
  · cases h
  · cases h
  · exact if_pos h

/-- Where a task that counts is in the core. -/
theorem tasks_core (ht : s.tasks[i]? = some t) (hc : t.errand.forClient = false) :
    s.core.tasks[s.rank i]? = some ⟨t.errand, t.stage.core, none⟩ := getElem?_core ht hc

/-- What is nothing to the core is not noted in it. -/
theorem core_note_task {x : Happening} (hx : x.ofTask = true) : (s.note x).core = s.core := by
  have hh : History.core (s.history ++ [(s.now, x)]) = s.history.core := by
    simp [History.core, Happening.core?_of_task hx]
  exact congrArg (fun h => { s.core with history := h }) hh

theorem core_note {x y : Happening} (hx : x.core? = some y) : (s.note x).core = s.core.note y := by
  have hh : History.core (s.history ++ [(s.now, x)]) = s.history.core ++ [(s.now, y)] := by
    simp [History.core, hx]
  exact congrArg (fun h => { s.core with history := h }) hh

/-- A new stage is nothing but a change of the core's tasks. -/
theorem core_setStage_eq (s : State) (i : Nat) (g : Stage) : (s.setStage i g).core = { s.core with
    tasks := (s.tasks.modify i ({ · with stage := g })).filterMap Task.core? } := by
  show ({ s with
    line := s.line.map (·.renumber (s.setStage i g).rank)
    tasks := (s.tasks.modify i ({ · with stage := g })).filterMap Task.core?
    inbox := s.inbox.map (s.setStage i g).rank
    history := s.history.core } : State) = _
  rw [rank_setStage]
  rfl

theorem core_setStage (ht : s.tasks[i]? = some t) (hc : t.errand.forClient = false) (g : Stage) :
    (s.setStage i g).core = s.core.setStage (s.rank i) g.core := by
  rw [core_setStage_eq, core_modify ht hc g]
  rfl

/-- How far a client build has come is nothing to the core, nor how far those have come who wait. -/
theorem core_setStage_same (ht : s.tasks[i]? = some t)
    (h : t.errand.forClient = true ∨ g.core = t.stage.core) : (s.setStage i g).core = s.core := by
  rw [core_setStage_eq, core_modify_same ht h]
  rfl

theorem core_endTask_same (ht : s.tasks[i]? = some t)
    (h : t.errand.forClient = true ∨ t.stage.core = .cancelled) (r : Result) :
    (s.endTask i r).core = s.core := by
  rw [State.endTask, core_note_task rfl]
  exact core_setStage_same ht (h.imp_right Eq.symm)

theorem core_endTask (ht : s.tasks[i]? = some t) (hc : t.errand.forClient = false) (r : Result) :
    (s.endTask i r).core = s.core.setStage (s.rank i) .cancelled := by
  rw [State.endTask, core_note_task rfl, core_setStage ht hc]
  rfl

theorem core_request (s : State) : s.request.core = s.core.request := by
  rw [State.request, core_note rfl]
  rfl

theorem core_mark (s : State) : ({ s with changed := true }.note .marked).core =
    { s.core with changed := true }.note .marked := core_note rfl

theorem core_unmark (s : State) : ({ s with changed := false }.note .unmarked).core =
    { s.core with changed := false }.note .unmarked := core_note rfl

theorem core_killWorker (s : State) : s.killWorker.core = s.core.killWorker := by
  unfold State.killWorker
  show _ = if s.alive.contains s.workers then _ else _
  split
  · exact core_note rfl
  · rfl

/-! ### The slot -/

theorem core_setHead (s : State) (c : Claim) :
    (s.setHead c).core = s.core.setHead (c.renumber s.rank) :=
  congrArg (fun l => { s.core with line := c.renumber s.rank :: l }) List.map_tail

theorem core_leave (s : State) : s.leave.core = s.core.leave :=
  congrArg (fun l => { s.core with line := l }) List.map_tail

theorem core_conclude (s : State) (n : Nat) (k : Conclusion) :
    (s.conclude n k).core = s.core.conclude n k := by
  rw [State.conclude, core_note rfl, core_leave]
  rfl

theorem core_callStart (script : Script) (s : State) (n : Nat) :
    (s.callStart script n).core = s.core.callStart script n := by
  rw [State.callStart, core_note rfl, core_setHead]
  rfl

theorem core_callStop (script : Script) (s : State) (owner : Owner) (w : Nat) :
    (s.callStop script owner w).core =
      { s.core.callStop script (owner.renumber s.rank) w with
        history := s.core.history ++
          [(s.now, .stopCalled (owner.renumber fun _ => 0) w)] } := by
  rw [State.callStop, core_note rfl, core_setHead]
  rfl

theorem core_beginRestart (script : Script) (s : State) (n : Nat) :
    (s.beginRestart script n).core = s.core.beginRestart script n := by
  rcases Bool.eq_false_or_eq_true s.shutDown with hd | hd
  · rw [beginRestart_skip hd, beginRestart_skip (s := s.core) hd, core_conclude, core_note rfl]
    rfl
  · rcases hw : s.slot with _ | w
    · rw [beginRestart_start hd hw, beginRestart_start (s := s.core) hd hw, core_callStart,
        core_note rfl]
      rfl
    · rw [beginRestart_stop hd hw, beginRestart_stop (s := s.core) hd hw, core_callStop,
        core_note rfl]
      rfl

theorem core_installWorker (s : State) (n : Nat) :
    (s.installWorker n).core = s.core.installWorker n := by
  rw [State.installWorker, State.installWorker, core_conclude]
  congr 1
  show _ = if s.changed then _ else _
  split
  · exact core_note rfl
  · rfl

theorem core_startReturned (s : State) (n : Nat) (o : StartOutcome) :
    (s.startReturned n o).core = s.core.startReturned n o := by
  have hn : (s.note (.startReturned n o)).core = s.core.note (.startReturned n o) := core_note rfl
  cases o with
  | ready => rw [State.startReturned, core_installWorker, hn]; rfl
  | dead =>
    rw [State.startReturned, core_conclude]
    exact congrArg (fun c => State.conclude { c with workers := s.workers + 1 } n _) hn
  | fault f => rw [State.startReturned, core_conclude, hn]; rfl
  | panic =>
    rw [State.startReturned, core_note rfl, core_leave]
    exact congrArg
      (fun c => (State.leave { c with tracker := s.tracker.abandon n }).note (.abandoned n)) hn

theorem core_claim (s : State) (n : Nat) : (s.claim n).map State.core = s.core.claim n := by
  unfold State.claim
  show _ = if n ∈ s.unclaimed then _ else _
  split
  · have hl : (s.line ++ [Claim.enters (.restart n)]).map (·.renumber s.rank) =
        s.core.line ++ [.enters (.restart n)] := List.map_append
    exact congrArg
      (fun l => some { s.core with line := l, unclaimed := s.unclaimed.filter (· != n) }) hl
  · rfl

/-! ### The core of a core -/

theorem rank_core_rank (s : State) (i : Nat) : s.core.rank (s.rank i) = s.rank i :=
  rank_core (rank_le s.tasks i)

theorem Owner.renumber_core (s : State) (owner : Owner) :
    (owner.renumber s.rank).renumber s.core.rank = owner.renumber s.rank := by
  cases owner with
  | restart => rfl
  | shutdown i => exact congrArg Owner.shutdown (rank_core_rank s i)

theorem Claim.renumber_core (s : State) (x : Claim) :
    (x.renumber s.rank).renumber s.core.rank = x.renumber s.rank := by
  cases x <;> simp [renumber, Owner.renumber_core]

theorem Happening.core?_core? (x : Happening) : x.core?.bind Happening.core? = x.core? := by
  unfold core?
  split
  · next owner w => cases owner <;> rfl
  · next owner w f => cases owner <;> rfl
  · next h₁ h₂ =>
    split
    · rfl
    · next h => simp [h]

theorem History.core_core (h : History) : h.core.core = h.core := by
  rw [core, core, List.filterMap_filterMap]
  congr 1
  funext x
  obtain ⟨t, x⟩ := x
  have hx := x.core?_core?
  rcases hc : x.core? with _ | y
  · simp [hc]
  · rw [hc] at hx
    simp only [Option.bind_some] at hx
    simp [hc, hx]

/-- Nothing more can be left out of a core. -/
@[simp] theorem core_core (s : State) : s.core.core = s.core := by
  have hl : s.core.line.map (·.renumber s.core.rank) = s.core.line := by
    show (s.line.map _).map _ = s.line.map _
    simp [Claim.renumber_core]
  have ht : s.core.tasks.filterMap Task.core? = s.core.tasks := by
    show (s.tasks.filterMap _).filterMap _ = _
    rw [List.filterMap_filterMap]
    exact congrArg (List.filterMap · s.tasks) (funext Task.core?_core?)
  have hi : s.core.inbox.map s.core.rank = s.core.inbox := by
    show (s.inbox.map _).map _ = s.inbox.map _
    cases s.inbox <;> simp [rank_core_rank]
  have hh : s.core.history.core = s.core.history := s.history.core_core
  show ({ s.core with
    line := s.core.line.map (·.renumber s.core.rank)
    tasks := s.core.tasks.filterMap Task.core?
    inbox := s.core.inbox.map s.core.rank
    history := s.core.history.core } : State) = s.core
  rw [hl, ht, hi, hh]

end

end DevServer.Restart
