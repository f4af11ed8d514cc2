import DevServer.Proofs.Restart.Rest

/-!
# Build events and their tasks

An `Intake` keeps account of build events: those that channels accepted, the tasks that loops began
for them, and those that were handed to a task directly. `Dealt` says how tasks change while such an
account is kept, and which client builds are announced meanwhile. What holds of the tasks and the
account all along is `Intake.Kept` (`Dealt.kept`): a loop has begun a task for each event that its
channel accepted, in their order, except for those that are in the channel.
-/

namespace DevServer.Restart

/-! ## The account -/

/-- A task that a loop has begun for an event from its channel. -/
structure Dispatch where
  receiver : Nat
  task : Nat
  event : Build.Event

/-- What has become of build events. -/
structure Intake where
  /-- The events that channels accepted, with the tasks that receive them. -/
  accepted : List (Nat × Build.Event)
  begun : List Dispatch
  /-- The events that were handed to a task directly. -/
  given : List Build.Event

/-- The events that go with a task. -/
def eventsOf (i : Nat) (xs : List (Nat × Build.Event)) : List Build.Event :=
  xs.filterMap fun x => if x.1 = i then some x.2 else none

namespace Intake

def empty : Intake := ⟨[], [], []⟩

def acceptedBy (l : Intake) (i : Nat) : List Build.Event := eventsOf i l.accepted

/-- The events that a loop began a task for. -/
def begunBy (l : Intake) (i : Nat) : List Build.Event :=
  eventsOf i (l.begun.map fun d => (d.receiver, d.event))

/-- A channel accepts an event. -/
def accept (l : Intake) (i : Nat) (e : Build.Event) : Intake :=
  { l with accepted := l.accepted ++ [(i, e)] }

/-- A loop begins a task for an event. -/
def begin (l : Intake) (d : Dispatch) : Intake := { l with begun := l.begun ++ [d] }

/-- A task is begun with an errand, which may be to handle an event. -/
def give (l : Intake) : Errand → Intake
  | .handle e _ => { l with given := l.given ++ [e] }
  | .restartWorker | .releaseClient _ | .receive _ | .shutdown => l

end Intake

theorem eventsOf_concat (i j : Nat) (xs : List (Nat × Build.Event)) (e : Build.Event) :
    eventsOf i (xs ++ [(j, e)]) = eventsOf i xs ++ if j = i then [e] else [] := by
  rw [eventsOf, eventsOf, List.filterMap_append]
  by_cases h : j = i <;> simp [h]

theorem eventsOf_eq_nil {i : Nat} {xs : List (Nat × Build.Event)} (h : ∀ x ∈ xs, x.1 ≠ i) :
    eventsOf i xs = [] :=
  List.filterMap_eq_nil_iff.mpr fun x hx => if_neg (h x hx)

theorem count_eventsOf (i : Nat) (e : Build.Event) (xs : List (Nat × Build.Event)) :
    (eventsOf i xs).count e = xs.count (i, e) := by
  induction xs with
  | nil => rfl
  | cons x xs ih =>
    obtain ⟨j, f⟩ := x
    rw [eventsOf, List.filterMap_cons, List.count_cons, ← ih]
    by_cases hj : j = i
    · simp [hj, eventsOf, List.count_cons]
    · simp [hj, eventsOf]

/-- Events that are the same for each task are the same, in some order. -/
theorem perm_of_eventsOf {xs ys : List (Nat × Build.Event)}
    (h : ∀ i, eventsOf i xs = eventsOf i ys) : xs.Perm ys := by
  refine List.perm_iff_count.mpr fun x => ?_
  rw [← count_eventsOf, h, count_eventsOf]

/-! ## What tasks say of events -/

/-- The build of a client build that has succeeded. -/
def clientBuild? (e : Build.Event) : Option Nat :=
  if e.success && e.target == .client then some e.build else none

namespace Task

/-- The event that the task handles. -/
def event? (t : Task) : Option Build.Event :=
  match t.errand with
  | .handle e _ => some e
  | .restartWorker | .releaseClient _ | .receive _ | .shutdown => none

/-- Whether the task handles a build that failed. -/
def handlesFailure (t : Task) : Bool := t.event?.any (!·.success)

/-- The events in the channel of the task. -/
def queue (t : Task) : List Build.Event :=
  match t.stage with
  | .receiving es _ => es
  | .fresh | .waiting _ | .settling _ _ | .claiming | .ended _ | .cancelled => []

/-- The client build that the task has announced. -/
def told? (t : Task) : Option Nat :=
  match t.stage with
  | .ended _ => t.event?.bind clientBuild?
  | .fresh | .waiting _ | .settling _ _ | .receiving _ _ | .claiming | .cancelled => none

theorem told?_of_not_isOver {t : Task} (h : t.stage.isOver = false) : t.told? = none := by
  rw [told?]
  cases hst : t.stage <;> simp_all [Stage.isOver]

theorem handlesFailure_of_receive {t : Task} {ms : Nat} (h : t.errand = .receive ms) :
    t.handlesFailure = false := by
  simp [handlesFailure, event?, h]

end Task

/-- The task gets to a stage without accepting, beginning or announcing anything. -/
structure Task.Shifts (t : Task) (g : Stage) : Prop where
  queue : g = .cancelled ∨ queue { t with stage := g } = t.queue
  lives : ∀ ms, t.errand = .receive ms → t.stage ≠ .cancelled
  told : told? { t with stage := g } = t.told?
  failure : t.handlesFailure = true → g.isOver = true

/-- How tasks change while the account is kept, and which client builds are announced. -/
inductive Dealt : List Task → Intake → List Nat → List Task → Intake → Prop where
  | refl (ts : List Task) (l : Intake) : Dealt ts l [] ts l
  | trans {ts ts' ts'' : List Task} {l l' l'' : Intake} {bs bs' : List Nat}
    (h : Dealt ts l bs ts' l') (h' : Dealt ts' l' bs' ts'' l'') : Dealt ts l (bs ++ bs') ts'' l''
  | shift {ts : List Task} {l : Intake} {i : Nat} {g : Stage}
    (h : ∀ t, ts[i]? = some t → t.Shifts g) :
    Dealt ts l [] (ts.modify i ({ · with stage := g })) l
  | announce {ts : List Task} {l : Intake} {i b ms : Nat} {t : Task} {e : Build.Event}
    (ht : ts[i]? = some t) (he : t.errand = .handle e ms) (hg : t.stage.isOver = false)
    (hb : clientBuild? e = some b) :
    Dealt ts l [b] (ts.modify i ({ · with stage := .ended .handled })) l
  | accept {ts : List Task} {l : Intake} {i ms : Nat} {t : Task} {es : List Build.Event}
    (ht : ts[i]? = some t) (he : t.errand = .receive ms) (hg : t.stage = .receiving es true)
    (e : Build.Event) :
    Dealt ts l [] (ts.modify i ({ · with stage := .receiving (es ++ [e]) true })) (l.accept i e)
  | begin {ts : List Task} {l : Intake} {i ms : Nat} {t : Task} {e : Build.Event}
    {es : List Build.Event} {isOpen : Bool} (ht : ts[i]? = some t) (he : t.errand = .receive ms)
    (hg : t.stage = .receiving (e :: es) isOpen) :
    Dealt ts l []
      (ts.modify i ({ · with stage := .receiving es isOpen }) ++ [⟨.handle e ms, .fresh, none⟩])
      (l.begin ⟨i, ts.length, e⟩)
  | spawn {ts : List Task} {l : Intake} {er : Errand} {g : Stage} (k : Nat)
    (hg : g = .fresh ∨ (∃ ms, er = .receive ms) ∧ g = .receiving [] true) :
    Dealt ts l [] (ts ++ [⟨er, g, some k⟩]) (l.give er)

/-! ## Tasks that change their stage -/

section
variable {ts : List Task} {i j : Nat} {t : Task} {g : Stage}

/-- Only the stage of the one task is another. -/
theorem of_getElem?_modify (h : (ts.modify i ({ · with stage := g }))[j]? = some t) :
    ∃ u, ts[j]? = some u ∧ t.errand = u.errand ∧ t.number = u.number ∧
      (j ≠ i ∧ t = u ∨ j = i ∧ t = { u with stage := g }) := by
  rw [List.getElem?_modify] at h
  obtain ⟨u, hu, rfl⟩ := Option.map_eq_some_iff.mp h
  refine ⟨u, hu, ?_⟩
  by_cases hij : i = j
  · simp [hij]
  · simp [hij, Ne.symm hij]

theorem getElem?_modify_stage (h : ts[j]? = some t) (i : Nat) (g : Stage) :
    ∃ g', (ts.modify i ({ · with stage := g }))[j]? = some { t with stage := g' } := by
  rw [List.getElem?_modify, h]
  by_cases hij : i = j
  · exact ⟨g, by simp [hij]⟩
  · exact ⟨t.stage, by simp [hij]⟩

theorem filterMap_modify_stage {α : Type} {f : Task → Option α}
    (h : ∀ t, ts[i]? = some t → f { t with stage := g } = f t) :
    (ts.modify i ({ · with stage := g })).filterMap f = ts.filterMap f := by
  induction ts generalizing i with
  | nil => simp
  | cons u ts ih =>
    cases i with
    | zero => rw [List.modify_zero_cons, List.filterMap_cons, List.filterMap_cons, h u rfl]
    | succ i =>
      rw [List.modify_succ_cons, List.filterMap_cons, List.filterMap_cons,
        ih fun t ht => h t (by simpa using ht)]

/-- One more task says something. -/
theorem perm_filterMap_modify_stage {α : Type} {f : Task → Option α} {b : α}
    (ht : ts[i]? = some t) (h : f t = none) (h' : f { t with stage := g } = some b) :
    (ts.filterMap f ++ [b]).Perm ((ts.modify i ({ · with stage := g })).filterMap f) := by
  induction ts generalizing i with
  | nil => cases ht
  | cons u ts ih =>
    cases i with
    | zero =>
      obtain rfl : u = t := by simpa using ht
      rw [List.modify_zero_cons, List.filterMap_cons_some h', List.filterMap_cons_none h]
      exact List.perm_append_singleton ..
    | succ i =>
      have hts := ih (by simpa using ht)
      rw [List.modify_succ_cons, List.filterMap_cons, List.filterMap_cons]
      cases f u with
      | none => exact hts
      | some x => exact hts.cons x

/-- A task that comes last. -/
theorem of_getElem?_append {u : Task} (h : (ts ++ [u])[j]? = some t) :
    ts[j]? = some t ∨ j = ts.length ∧ t = u := by
  rcases Nat.lt_or_ge j ts.length with hj | hj
  · rw [List.getElem?_append_left hj] at h
    exact .inl h
  · rw [List.getElem?_append_right hj] at h
    obtain ⟨hlen, h⟩ := List.getElem?_eq_some_iff.mp h
    rw [List.length_singleton] at hlen
    exact .inr ⟨by omega, by rw [← h]; simp⟩

theorem getElem?_append_task (h : ts[j]? = some t) (u : Task) : (ts ++ [u])[j]? = some t := by
  rw [List.getElem?_append_left (List.getElem?_eq_some_iff.mp h).1, h]

end

/-! ## Which tasks there are -/

/-- The tasks that loops have begun for events are those without a number, in order. -/
structure Intake.Placed (l : Intake) (ts : List Task) : Prop where
  receivers : ∀ x ∈ l.accepted, ∃ t ms, ts[x.1]? = some t ∧ t.errand = .receive ms
  begun : ∀ d ∈ l.begun, ∃ ms g t, ts[d.task]? = some ⟨.handle d.event ms, g, none⟩ ∧
    ts[d.receiver]? = some t ∧ t.errand = .receive ms
  ascending : (l.begun.map Dispatch.task).Pairwise (· < ·)
  only : ∀ j t, ts[j]? = some t → t.number = none → j ∈ l.begun.map Dispatch.task
  events : (ts.filterMap Task.event?).Perm (l.given ++ l.begun.map Dispatch.event)

namespace Intake.Placed

variable {l : Intake} {ts : List Task} {i ms : Nat} {t : Task}

theorem empty : Intake.empty.Placed [] where
  receivers _ h := by cases h
  begun _ h := by cases h
  ascending := .nil
  only _ _ h := by cases h
  events := .nil

theorem stage (h : l.Placed ts) (i : Nat) (g : Stage) :
    l.Placed (ts.modify i ({ · with stage := g })) where
  receivers x hx := by
    obtain ⟨t, ms, ht, he⟩ := h.receivers x hx
    obtain ⟨g', ht'⟩ := getElem?_modify_stage ht i g
    exact ⟨_, ms, ht', he⟩
  begun d hd := by
    obtain ⟨ms, _, t, hd, ht, he⟩ := h.begun d hd
    obtain ⟨g₁, hd'⟩ := getElem?_modify_stage hd i g
    obtain ⟨g₂, ht'⟩ := getElem?_modify_stage ht i g
    exact ⟨ms, g₁, _, hd', ht', he⟩
  ascending := h.ascending
  only j t ht hn := by
    obtain ⟨u, hu, -, hnumber, -⟩ := of_getElem?_modify ht
    exact h.only j u hu (hnumber ▸ hn)
  events := by rw [filterMap_modify_stage fun _ _ => rfl]; exact h.events

theorem accept (h : l.Placed ts) (ht : ts[i]? = some t) (he : t.errand = .receive ms)
    (e : Build.Event) : (l.accept i e).Placed ts where
  receivers x hx := by
    rcases List.mem_append.mp hx with hx | hx
    · exact h.receivers x hx
    · rw [List.mem_singleton.mp hx]
      exact ⟨t, ms, ht, he⟩
  begun := h.begun
  ascending := h.ascending
  only := h.only
  events := h.events

/-- Another task joins those there are. -/
theorem begun_append (h : l.Placed ts) (u : Task) : ∀ d ∈ l.begun, ∃ ms g t,
    (ts ++ [u])[d.task]? = some ⟨.handle d.event ms, g, none⟩ ∧
      (ts ++ [u])[d.receiver]? = some t ∧ t.errand = .receive ms := by
  intro d hd
  obtain ⟨ms, g, t, hd, ht, he⟩ := h.begun d hd
  exact ⟨ms, g, t, getElem?_append_task hd u, getElem?_append_task ht u, he⟩

theorem receivers_append (h : l.Placed ts) (u : Task) : ∀ x ∈ l.accepted, ∃ t ms,
    (ts ++ [u])[x.1]? = some t ∧ t.errand = .receive ms := by
  intro x hx
  obtain ⟨t, ms, ht, he⟩ := h.receivers x hx
  exact ⟨t, ms, getElem?_append_task ht u, he⟩

theorem begin (h : l.Placed ts) (ht : ts[i]? = some t) (he : t.errand = .receive ms)
    (e : Build.Event) :
    (l.begin ⟨i, ts.length, e⟩).Placed (ts ++ [⟨.handle e ms, .fresh, none⟩]) where
  receivers := h.receivers_append _
  begun d hd := by
    rcases List.mem_append.mp hd with hd | hd
    · exact h.begun_append _ d hd
    · rw [List.mem_singleton.mp hd]
      exact ⟨ms, .fresh, t, List.getElem?_concat_length .., getElem?_append_task ht _, he⟩
  ascending := by
    have hlt : ∀ j ∈ l.begun.map Dispatch.task, j < ts.length := by
      intro j hj
      obtain ⟨d, hd, rfl⟩ := List.mem_map.mp hj
      obtain ⟨_, _, _, hd, -⟩ := h.begun d hd
      exact (List.getElem?_eq_some_iff.mp hd).1
    rw [Intake.begin, List.map_append, List.pairwise_append]
    refine ⟨h.ascending, List.pairwise_singleton .., fun j hj k hk => ?_⟩
    rw [List.mem_singleton.mp hk]
    exact hlt j hj
  only j u hu hn := by
    rw [Intake.begin, List.map_append, List.mem_append]
    rcases of_getElem?_append hu with hu | ⟨rfl, -⟩
    · exact .inl (h.only j u hu hn)
    · exact .inr (List.mem_singleton.mpr rfl)
  events := by
    rw [Intake.begin, List.map_append, ← List.append_assoc, List.filterMap_append]
    exact h.events.append_right [e]

theorem spawn (h : l.Placed ts) (er : Errand) (g : Stage) (k : Nat) :
    (l.give er).Placed (ts ++ [⟨er, g, some k⟩]) := by
  have hbegun : (l.give er).begun = l.begun := by cases er <;> rfl
  have haccepted : (l.give er).accepted = l.accepted := by cases er <;> rfl
  constructor
  case receivers => rw [haccepted]; exact h.receivers_append _
  case begun => rw [hbegun]; exact h.begun_append _
  case ascending => rw [hbegun]; exact h.ascending
  case only =>
    intro j u hu hn
    rw [hbegun]
    rcases of_getElem?_append hu with hu | ⟨-, rfl⟩
    · exact h.only j u hu hn
    · cases hn
  case events =>
    rw [hbegun, List.filterMap_append]
    cases er with
    | handle e ms =>
      have hcomm : (l.given ++ (l.begun.map Dispatch.event ++ [e])).Perm
          ((l.given ++ [e]) ++ l.begun.map Dispatch.event) := by
        rw [List.append_assoc]
        exact List.Perm.append_left _ List.perm_append_comm
      refine (h.events.append_right [e]).trans ?_
      rw [List.append_assoc]
      exact hcomm
    | restartWorker | releaseClient | receive | shutdown =>
      show (ts.filterMap Task.event? ++ []).Perm _
      rw [List.append_nil]
      exact h.events

end Intake.Placed

/-! ## The invariant -/

/-- What the account says of the tasks, and of the client builds that were announced. -/
structure Intake.Kept (l : Intake) (ts : List Task) (told : List Nat) : Prop where
  placed : l.Placed ts
  queue : ∀ i t ms, ts[i]? = some t → t.errand = .receive ms → t.stage ≠ .cancelled →
    l.acceptedBy i = l.begunBy i ++ t.queue
  failure : ∀ t ∈ ts, t.handlesFailure = true → t.stage = .fresh ∨ t.stage.isOver = true
  told : told.Perm (ts.filterMap Task.told?)

namespace Intake.Kept

variable {l : Intake} {ts : List Task} {told : List Nat} {i ms b : Nat} {t : Task} {g : Stage}
  {e : Build.Event} {es : List Build.Event} {isOpen : Bool}

theorem empty : Intake.empty.Kept [] [] where
  placed := .empty
  queue _ _ _ h := by cases h
  failure _ h := by cases h
  told := .nil

/-- No task of a failed build gets anywhere but to its end. -/
theorem failure_stage (h : l.Kept ts told)
    (hg : ∀ t, ts[i]? = some t → t.handlesFailure = true → g.isOver = true) :
    ∀ t ∈ ts.modify i ({ · with stage := g }), t.handlesFailure = true →
      t.stage = .fresh ∨ t.stage.isOver = true := by
  intro t ht hf
  obtain ⟨j, ht⟩ := List.mem_iff_getElem?.mp ht
  obtain ⟨u, hu, -, -, ⟨-, rfl⟩ | ⟨rfl, rfl⟩⟩ := of_getElem?_modify ht
  · exact h.failure t (List.mem_of_getElem? hu) hf
  · exact .inr (hg u hu hf)

theorem shift (h : l.Kept ts told) (hs : ∀ t, ts[i]? = some t → t.Shifts g) :
    l.Kept (ts.modify i ({ · with stage := g })) told where
  placed := h.placed.stage i g
  queue j t ms ht he hc := by
    obtain ⟨u, hu, herrand, -, ⟨-, rfl⟩ | ⟨rfl, rfl⟩⟩ := of_getElem?_modify ht
    · exact h.queue j t ms hu he hc
    · have hq := (hs u hu).queue.resolve_left hc
      rw [hq]
      exact h.queue j u ms hu he ((hs u hu).lives ms he)
  failure := h.failure_stage fun t ht => (hs t ht).failure
  told := by rw [filterMap_modify_stage fun t ht => (hs t ht).told]; exact h.told

theorem announce (h : l.Kept ts told) (ht : ts[i]? = some t) (he : t.errand = .handle e ms)
    (hg : t.stage.isOver = false) (hb : clientBuild? e = some b) :
    l.Kept (ts.modify i ({ · with stage := .ended .handled })) (told ++ [b]) where
  placed := h.placed.stage i _
  queue j u ms hu her hc := by
    obtain ⟨v, hv, -, -, ⟨-, rfl⟩ | ⟨rfl, rfl⟩⟩ := of_getElem?_modify hu
    · exact h.queue j u ms hv her hc
    · obtain rfl := Option.some.inj (ht.symm.trans hv)
      rw [he] at her
      cases her
  failure := h.failure_stage fun _ _ _ => rfl
  told := by
    have hnone : t.told? = none := Task.told?_of_not_isOver hg
    have hsome : Task.told? { t with stage := .ended .handled } = some b := by
      simp [Task.told?, Task.event?, he, hb]
    exact (h.told.append_right [b]).trans (perm_filterMap_modify_stage ht hnone hsome)

theorem queue_receiving (h : l.Kept ts told) (ht : ts[i]? = some t) (he : t.errand = .receive ms)
    (hg : t.stage = .receiving es isOpen) : l.acceptedBy i = l.begunBy i ++ es := by
  have hq := h.queue i t ms ht he (by simp [hg])
  rwa [Task.queue, hg] at hq

/-- A task that receives events handles no build, and has announced none. -/
theorem failure_receive (h : l.Kept ts told) (ht : ts[i]? = some t) (he : t.errand = .receive ms) :
    ∀ u ∈ ts.modify i ({ · with stage := g }), u.handlesFailure = true →
      u.stage = .fresh ∨ u.stage.isOver = true :=
  h.failure_stage fun u hu hf => by
    obtain rfl := Option.some.inj (ht.symm.trans hu)
    cases (Task.handlesFailure_of_receive he).symm.trans hf

theorem told_receiving (h : l.Kept ts told) (ht : ts[i]? = some t)
    (hg : t.stage = .receiving es isOpen) (es' : List Build.Event) :
    told.Perm
      ((ts.modify i ({ · with stage := .receiving es' isOpen })).filterMap Task.told?) := by
  rw [filterMap_modify_stage]
  · exact h.told
  · intro u hu
    obtain rfl := Option.some.inj (ht.symm.trans hu)
    simp [Task.told?, hg]

theorem accept (h : l.Kept ts told) (ht : ts[i]? = some t) (he : t.errand = .receive ms)
    (hg : t.stage = .receiving es true) (e : Build.Event) :
    (l.accept i e).Kept (ts.modify i ({ · with stage := .receiving (es ++ [e]) true })) told where
  placed := (h.placed.accept ht he e).stage i _
  queue j u ms hu her hc := by
    rw [acceptedBy, Intake.accept, eventsOf_concat]
    obtain ⟨v, hv, -, -, ⟨hj, rfl⟩ | ⟨rfl, rfl⟩⟩ := of_getElem?_modify hu
    · rw [if_neg (Ne.symm hj), List.append_nil]
      exact h.queue j u ms hv her hc
    · obtain rfl := Option.some.inj (ht.symm.trans hv)
      rw [if_pos rfl]
      exact (congrArg (· ++ [e]) (h.queue_receiving ht he hg)).trans (List.append_assoc ..)
  failure := h.failure_receive ht he
  told := h.told_receiving ht hg _

/-- A task that has just come has announced nothing. -/
theorem filterMap_told_append (ts : List Task) {u : Task} (hu : u.stage.isOver = false) :
    (ts ++ [u]).filterMap Task.told? = ts.filterMap Task.told? := by
  have hnone : u.told? = none := Task.told?_of_not_isOver hu
  rw [List.filterMap_append, List.filterMap_cons_none hnone, List.filterMap_nil, List.append_nil]

theorem begin (h : l.Kept ts told) (ht : ts[i]? = some t) (he : t.errand = .receive ms)
    (hg : t.stage = .receiving (e :: es) isOpen) :
    (l.begin ⟨i, ts.length, e⟩).Kept
      (ts.modify i ({ · with stage := .receiving es isOpen }) ++ [⟨.handle e ms, .fresh, none⟩])
      told where
  placed := by
    obtain ⟨g', ht'⟩ := getElem?_modify_stage ht i (.receiving es isOpen)
    have hp := (h.placed.stage i (.receiving es isOpen)).begin ht' he e
    rwa [List.length_modify] at hp
  queue j u ms' hu her hc := by
    rw [begunBy, Intake.begin, List.map_append, List.map_singleton, eventsOf_concat]
    rcases of_getElem?_append hu with hu | ⟨-, rfl⟩
    · obtain ⟨v, hv, -, -, ⟨hj, rfl⟩ | ⟨rfl, rfl⟩⟩ := of_getElem?_modify hu
      · rw [if_neg (Ne.symm hj), List.append_nil]
        exact h.queue j u ms' hv her hc
      · obtain rfl := Option.some.inj (ht.symm.trans hv)
        rw [if_pos rfl, List.append_assoc]
        exact h.queue_receiving ht he hg
    · cases her
  failure u hu hf := by
    rcases List.mem_append.mp hu with hu | hu
    · exact h.failure_receive ht he u hu hf
    · exact .inl (by rw [List.mem_singleton.mp hu])
  told := by
    rw [filterMap_told_append _ rfl]
    exact h.told_receiving ht hg es

theorem spawn (h : l.Kept ts told) {er : Errand} (k : Nat)
    (hg : g = .fresh ∨ (∃ ms, er = .receive ms) ∧ g = .receiving [] true) :
    (l.give er).Kept (ts ++ [⟨er, g, some k⟩]) told where
  placed := h.placed.spawn er g k
  queue j u ms hu her hc := by
    have haccepted : (l.give er).acceptedBy j = l.acceptedBy j := by cases er <;> rfl
    have hbegun : (l.give er).begunBy j = l.begunBy j := by cases er <;> rfl
    rw [haccepted, hbegun]
    rcases of_getElem?_append hu with hu | ⟨rfl, rfl⟩
    · exact h.queue j u ms hu her hc
    · -- nothing has gone with this task before
      have hq : Task.queue ⟨er, g, some k⟩ = [] := by
        rcases hg with rfl | ⟨-, rfl⟩ <;> rfl
      rw [hq, acceptedBy, begunBy, eventsOf_eq_nil, eventsOf_eq_nil]
      · rfl
      · intro x hx
        obtain ⟨d, hd, rfl⟩ := List.mem_map.mp hx
        obtain ⟨_, _, t, -, ht, -⟩ := h.placed.begun d hd
        exact Nat.ne_of_lt (List.getElem?_eq_some_iff.mp ht).1
      · intro x hx
        obtain ⟨t, _, ht, -⟩ := h.placed.receivers x hx
        exact Nat.ne_of_lt (List.getElem?_eq_some_iff.mp ht).1
  failure u hu hf := by
    rcases List.mem_append.mp hu with hu | hu
    · exact h.failure u hu hf
    · rw [List.mem_singleton.mp hu] at hf ⊢
      rcases hg with rfl | ⟨⟨ms, rfl⟩, -⟩
      · exact .inl rfl
      · cases hf
  told := by
    rw [filterMap_told_append]
    · exact h.told
    · rcases hg with rfl | ⟨-, rfl⟩ <;> rfl

end Intake.Kept

/-- **The account holds all along.** -/
theorem Dealt.kept {ts ts' : List Task} {l l' : Intake} {bs told : List Nat}
    (h : Dealt ts l bs ts' l') (hk : l.Kept ts told) : l'.Kept ts' (told ++ bs) := by
  induction h generalizing told with
  | refl => rw [List.append_nil]; exact hk
  | trans _ _ ih ih' => rw [← List.append_assoc]; exact ih' (ih hk)
  | shift hs => rw [List.append_nil]; exact hk.shift hs
  | announce ht he hg hb => exact hk.announce ht he hg hb
  | accept ht he hg e => rw [List.append_nil]; exact hk.accept ht he hg e
  | begin ht he hg => rw [List.append_nil]; exact hk.begin ht he hg
  | spawn k hg => rw [List.append_nil]; exact hk.spawn k hg

end DevServer.Restart
