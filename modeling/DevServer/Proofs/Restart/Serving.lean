import DevServer.Proofs.Restart.Fates
import DevServer.Proofs.Restart.Rest
import DevServer.Proofs.Restart.Service

/-!
# Restarts are served one after the other

When nothing but requests comes from outside, a dev loop does with restarts what one server with one
waiting place does (`Service`). `Phase` is where it is with the restart that it serves, `Behind`
where the one that waits is, and `Serving` ties both to the history. Every step that such a prompt
run can take keeps it (`Serving.step`).
-/

namespace DevServer.Restart

namespace Happening

def requested? : Happening → Option Nat
  | requested n _ => some n
  | _ => none

end Happening

namespace History

/-- The requests, with their times and the tickets they were given. -/
def requests (h : History) : List (Nat × Nat) := h.filterMap fun (t, x) => x.requested?.map (t, ·)

/-- What else has happened. -/
def served (h : History) : History := h.filter (·.2.requested?.isNone)

variable {h k : History} {t : Nat} {x : Happening}

@[simp] theorem requests_append : requests (h ++ k) = h.requests ++ k.requests :=
  List.filterMap_append

@[simp] theorem served_append : served (h ++ k) = h.served ++ k.served := List.filter_append ..

end History

/-- Whether a run may take an action in which only requests come from outside. -/
def State.onlyRequests (script : Script) (s : State) (a : Action) : Bool :=
  s.prompt script a && match a with
  | .request | .claim _ | .turn | .pass _ | .poll _ => true
  | _ => false

/-! ## Phases -/

/-- Where the restart `n` is while it waits: nowhere yet, about to claim the slot, or in the line.
-/
inductive Behind (n : Nat) : Option Nat → List Nat → List Claim → Prop where
  | nobody : Behind n none [] []
  | unclaimed (asked : Nat) : Behind n (some asked) [n] []
  | inLine (asked : Nat) : Behind n (some asked) [] [.enters (.restart n)]

/-- The restart that waits, if it was created at a time. -/
def Server.waiting (script : Script) (q : Server) (asked : Option Nat) : List Service :=
  asked.toList.map (q.serve script)

/-- The slot and the counts of workers and calls. -/
structure State.Holds (s : State) (worker : Option Nat) (workers starts stops : Nat) : Prop where
  slot : s.slot = worker
  alive : s.alive = worker.toList
  workers : s.workers = workers
  starts : s.startCalls = starts
  stops : s.stopCalls = stops

/-- Where the dev loop is with the services that have begun, what is still to happen in the last of
them, and who is in the line behind it. -/
inductive Phase (script : Script) (s : State) : List Service → History → List Claim → Prop where
  /-- No restart runs. -/
  | free {vs : List Service} {q : Server} (hq : q = Server.afterAll vs)
    (hs : s.Holds q.worker q.workers q.served q.stops) (hf : q.free ≤ s.now) :
    Phase script s vs [] s.line
  /-- A restart stops the worker before it. -/
  | stopping {vs : List Service} {q : Server} {v : Service} {w : Nat} {stop : StopScript}
    {tail : List Claim} (hq : q = Server.afterAll vs) (hw : v.stop = some (w, stop))
    (hl : s.line = .stops (.restart v.ticket) w v.started stop.fault :: tail)
    (hs : s.Holds none q.workers q.served (q.stops + 1))
    (hlo : v.began ≤ s.now) (hhi : s.now ≤ v.started) :
    Phase script s (vs ++ [v])
      ((v.started, .stopReturned (.restart v.ticket) w stop.fault) ::
        (v.started, .startCalled v.ticket) :: v.ending) tail
  /-- A restart starts its worker. -/
  | starting {vs : List Service} {q : Server} {v : Service} {tail : List Claim}
    (hq : q = Server.afterAll vs)
    (hl : s.line = .starts v.ticket v.ended v.start.outcome :: tail)
    (hs : s.Holds none q.workers (q.served + 1) (q.after v).stops)
    (hlo : v.started ≤ s.now) (hhi : s.now ≤ v.ended) :
    Phase script s (vs ++ [v]) v.ending tail

/-- The services that requests have led to: those that have begun, and the one that waits. -/
structure Serving (script : Script) (s : State) (vs : List Service) (next : Option Nat)
    (rest : History) (tail : List Claim) : Prop where
  booked : Booked script s.history.requests (vs ++ (Server.afterAll vs).waiting script next)
  served : Served script vs
  trace : s.history.served ++ rest = vs.flatMap Service.trace
  phase : Phase script s vs rest tail
  behind : Behind ((Server.afterAll vs).served + 1) next s.unclaimed tail
  started : s.tracker.started = vs.length
  asked : ∀ t ∈ next, t ≤ s.now ∧ s.now ≤ max t (Server.afterAll vs).free
  shutDown : s.shutDown = false
  changed : s.changed = false
  tasks : s.tasks = []

section
variable {script : Script} {s s' : State} {vs : List Service} {next : Option Nat} {rest : History}
  {tail : List Claim} {n : Nat} {u : List Nat}

/-! ### Calls -/

theorem State.Holds.callStart {k a b : Nat} (h : s.Holds none k a b) (n : Nat) :
    (s.callStart script n).Holds none k (a + 1) b :=
  ⟨h.slot, h.alive, h.workers, congrArg (· + 1) h.starts, h.stops⟩

/-- The worker is not alive any more while it is being stopped. -/
theorem State.Holds.callStop {w k a b : Nat} (h : s.Holds (some w) k a b) (o : Owner) :
    (s.callStop script o w).Holds none k a (b + 1) where
  slot := rfl
  alive := by
    show s.alive.filter (· != w) = []
    rw [h.alive]; simp
  workers := h.workers
  starts := h.starts
  stops := congrArg (· + 1) h.stops

theorem line_starts {v : Service} (hs : v.start = script.start s.startCalls)
    (hn : v.started = s.now) (hl : s.line.tail = tail) : (s.callStart script v.ticket).line =
      .starts v.ticket v.ended v.start.outcome :: tail := by
  rw [Service.ended, hs, hn, ← hl]
  rfl

theorem line_stops {v : Service} {w : Nat} {stop : StopScript} (hv : v.stop = some (w, stop))
    (hs : stop = script.stop s.stopCalls) (hn : v.began = s.now) (ha : s.alive = [w])
    (hl : s.line.tail = tail) : (s.callStop script (.restart v.ticket) w).line =
      .stops (.restart v.ticket) w v.started stop.fault :: tail := by
  rw [v.started_of_some hv, hs, hn, ← hl]
  show (.stops _ _ (if s.alive.contains w then _ else _) _ :: s.line.tail) = _
  rw [ha, if_pos (by simp)]

/-- The tracker knows the restart that waits. -/
theorem Behind.queued (hb : Behind n next u tail) {t : Tracker}
    (ht : u ++ tail.filterMap Claim.entering? = t.queued.toList) :
    t.queued = next.map fun _ => n := by
  cases hb <;> rcases hq : t.queued with _ | m <;> rw [hq] at ht <;> simp_all [Claim.entering?]

theorem Behind.of_none (h : Behind n none u tail) : u = [] ∧ tail = [] := by
  cases h; exact ⟨rfl, rfl⟩

namespace Phase

theorem entering (h : Phase script s vs rest tail) :
    s.line.filterMap Claim.entering? = tail.filterMap Claim.entering? := by
  cases h with
  | free => rfl
  | stopping _ _ hl | starting _ hl => rw [hl, List.filterMap_cons]; rfl

theorem began_le (h : Phase script s vs rest tail) (hs : Served script vs) :
    ∀ v ∈ vs, v.began ≤ s.now := by
  have hlast {us : List Service} {v : Service} (hs : Served script (us ++ [v]))
      (hv : v.began ≤ s.now) : ∀ u ∈ us ++ [v], u.began ≤ s.now := by
    obtain ⟨hus, t, rfl⟩ := hs.of_concat
    intro u hu
    rcases List.mem_append.mp hu with hu | hu
    · have h1 := Nat.le_trans u.began_le_started u.started_le_ended
      have h2 := hus.ended_le u hu
      have h3 : (Server.afterAll us).free ≤ ((Server.afterAll us).serve script t).began :=
        Nat.le_max_right _ _
      omega
    · rw [List.mem_singleton.mp hu]; exact hv
  cases h with
  | free hq _ hf =>
    intro v hv
    have h1 := Nat.le_trans v.began_le_started v.started_le_ended
    have h2 := hs.ended_le v hv
    rw [hq] at hf
    omega
  | stopping _ _ _ _ hlo => exact hlast hs hlo
  | @starting _ _ v _ _ _ _ hlo => exact hlast hs (Nat.le_trans v.began_le_started hlo)

/-- Only the clock, the slot and the line matter, and the counts. -/
theorem congr (h : Phase script s vs rest tail) (hn : s'.now = s.now) (hl : s'.line = s.line)
    (hs : ∀ w k a b, s.Holds w k a b → s'.Holds w k a b) : Phase script s' vs rest tail := by
  cases h with
  | free hq hh hf => rw [← hl]; exact .free hq (hs _ _ _ _ hh) (hn ▸ hf)
  | stopping hq hw hl' hh hlo hhi =>
    exact .stopping hq hw (hl.trans hl') (hs _ _ _ _ hh) (hn ▸ hlo) (hn ▸ hhi)
  | starting hq hl' hh hlo hhi =>
    exact .starting hq (hl.trans hl') (hs _ _ _ _ hh) (hn ▸ hlo) (hn ▸ hhi)

/-- A claim gets into the line. -/
theorem append (h : Phase script s vs rest tail) (x : Claim) (u : List Nat) :
    Phase script { s with unclaimed := u, line := s.line ++ [x] } vs rest (tail ++ [x]) := by
  have hs {w k a b} (hh : s.Holds w k a b) :
      State.Holds { s with unclaimed := u, line := s.line ++ [x] } w k a b :=
    ⟨hh.slot, hh.alive, hh.workers, hh.starts, hh.stops⟩
  cases h with
  | free hq hh hf => exact .free hq (hs hh) hf
  | stopping hq hw hl hh hlo hhi =>
    refine .stopping hq hw ?_ (hs hh) hlo hhi
    show s.line ++ [x] = _
    rw [hl]; rfl
  | starting hq hl hh hlo hhi =>
    refine .starting hq ?_ (hs hh) hlo hhi
    show s.line ++ [x] = _
    rw [hl]; rfl

end Phase

namespace Serving

theorem queued (h : Serving script s vs next rest tail) (hs : Reachable script s) :
    s.tracker.queued = next.map fun _ => (Server.afterAll vs).served + 1 := by
  refine h.behind.queued ?_
  have := hs.ordered.queue.waiting
  rwa [Shared.waiting, show s.shared.line = s.line from rfl, h.phase.entering] at this

/-- A request is given the restart after those that have begun. -/
theorem ticket (h : Serving script s vs next rest tail) (hs : Reachable script s) :
    s.tracker.ticket = (Server.afterAll vs).served + 1 := by
  rw [show s.tracker.ticket = s.tracker.started + 1 from hs.ordered.queue.ticket, h.started,
    h.served.tickets.2]

theorem request (h : Serving script s vs next rest tail) (hs : Reachable script s) :
    Serving script s.request vs (some (next.getD s.now)) rest tail ∧
      s.request.history.requests =
        s.history.requests ++ [(s.now, (Server.afterAll vs).served + 1)] := by
  have ht := h.ticket hs
  have hq := h.queued hs
  have hphase : Phase script s.request vs rest tail :=
    h.phase.congr rfl rfl fun _ _ _ _ hh => ⟨hh.slot, hh.alive, hh.workers, hh.starts, hh.stops⟩
  have hreq : s.request.history.requests =
      s.history.requests ++ [(s.now, (Server.afterAll vs).served + 1)] := by
    rw [← ht]; exact History.requests_append
  have htrace : s.request.history.served ++ rest = vs.flatMap Service.trace := by
    rw [← h.trace]
    congr 1
    exact (History.served_append (h := s.history)).trans (List.append_nil _)
  have hstarted : s.request.tracker.started = vs.length :=
    (Tracker.started_request _).trans h.started
  have hbook := h.booked
  have hbehind := h.behind
  cases next with
  | none =>
    simp only [Server.waiting, Option.toList_none, List.map_nil, List.append_nil] at hbook
    obtain ⟨hu, rfl⟩ := hbehind.of_none
    have hu : s.request.unclaimed = [(Server.afterAll vs).served + 1] := by
      simp [State.request, State.note, hq, ht, hu]
    refine ⟨⟨?_, h.served, htrace, hphase, ?_, hstarted, ?_, h.shutDown, h.changed, h.tasks⟩, hreq⟩
    · rw [hreq]
      exact hbook.create (h.phase.began_le h.served) rfl
    · rw [hu]; exact .unclaimed _
    · rintro t ⟨⟩
      exact ⟨Nat.le_refl _, Nat.le_max_left _ _⟩
  | some t =>
    simp only [Server.waiting, Option.toList_some, List.map_singleton] at hbook
    have hu : s.request.unclaimed = s.unclaimed := by simp [State.request, State.note, hq]
    refine ⟨⟨?_, h.served, htrace, hphase, hu ▸ hbehind, hstarted, h.asked, h.shutDown, h.changed,
      h.tasks⟩, hreq⟩
    rw [hreq]
    exact hbook.join (h.asked t rfl).2

theorem claim (h : Serving script s vs next rest tail) {n : Nat}
    (hc : s.claim n = some s') : ∃ tail, Serving script s' vs next rest tail := by
  unfold State.claim at hc
  split at hc
  · next hn =>
    cases hc
    obtain ⟨t, rfl, hu, rfl, rfl⟩ : ∃ t, next = some t ∧ s.unclaimed = [n] ∧ tail = [] ∧
        n = (Server.afterAll vs).served + 1 := by
      have hb := h.behind
      generalize s.unclaimed = u at hb hn
      cases hb with
      | unclaimed t => exact ⟨t, rfl, by simp_all, rfl, by simpa using hn⟩
      | nobody | inLine => cases hn
    refine ⟨_, h.booked, h.served, h.trace, h.phase.append _ _, ?_, h.started, h.asked, h.shutDown,
      h.changed, h.tasks⟩
    simp only [hu, List.nil_append]
    rw [List.filter_cons]
    simpa using Behind.inLine t
  · cases hc

/-- The restart at the head of the line that is about to begin is the one that waits. -/
theorem of_enters (h : Serving script s vs next rest tail) {o : Owner} {r : List Claim}
    (hl : s.line = .enters o :: r) : ∃ t q, next = some t ∧ r = [] ∧ rest = [] ∧ s.unclaimed = [] ∧
      q = Server.afterAll vs ∧ o = .restart (q.served + 1) ∧
      s.Holds q.worker q.workers q.served q.stops ∧ (q.serve script t).began = s.now := by
  have hphase := h.phase
  cases hphase with
  | free hq hh hf =>
    have hb := h.behind
    rw [hl] at hb
    generalize s.unclaimed = u at hb ⊢
    cases hb with
    | inLine t =>
      obtain ⟨hle, hge⟩ := h.asked t rfl
      refine ⟨t, _, rfl, rfl, rfl, rfl, hq, by rw [hq], hh, ?_⟩
      simp only [Server.serve]
      rw [← hq] at hge
      omega
  | stopping _ _ hl' | starting _ hl' => cases hl.symm.trans hl'

/-- The owner of a call to stop a worker is the restart that began last. -/
theorem of_stops (h : Serving script s vs next rest tail) {o : Owner} {w due : Nat}
    {f : Option Worker.Fault} {r : List Claim} (hl : s.line = .stops o w due f :: r) :
    ∃ us q v stop, vs = us ++ [v] ∧ q = Server.afterAll us ∧ v.stop = some (w, stop) ∧ r = tail ∧
      o = .restart v.ticket ∧ f = stop.fault ∧ due = v.started ∧
      rest = (v.started, .stopReturned (.restart v.ticket) w stop.fault) ::
        (v.started, .startCalled v.ticket) :: v.ending ∧
      s.Holds none q.workers q.served (q.stops + 1) ∧ s.now ≤ v.started := by
  have hphase := h.phase
  cases hphase with
  | free =>
    have hb := h.behind
    rw [hl] at hb
    generalize s.unclaimed = u at hb
    cases hb
  | stopping hq hw hl' hh hlo hhi =>
    cases hl.symm.trans hl'
    exact ⟨_, _, _, _, rfl, hq, hw, rfl, rfl, rfl, rfl, rfl, hh, hhi⟩
  | starting _ hl' => cases hl.symm.trans hl'

/-- A call to start a worker is that of the restart that began last. -/
theorem of_starts (h : Serving script s vs next rest tail) {n due : Nat} {o : StartOutcome}
    {r : List Claim} (hl : s.line = .starts n due o :: r) :
    ∃ us q v, vs = us ++ [v] ∧ q = Server.afterAll us ∧ r = tail ∧ n = v.ticket ∧
      o = v.start.outcome ∧ due = v.ended ∧ rest = v.ending ∧
      s.Holds none q.workers (q.served + 1) (q.after v).stops ∧ s.now ≤ v.ended := by
  have hphase := h.phase
  cases hphase with
  | free =>
    have hb := h.behind
    rw [hl] at hb
    generalize s.unclaimed = u at hb
    cases hb
  | stopping _ _ hl' => cases hl.symm.trans hl'
  | starting hq hl' hh hlo hhi =>
    cases hl.symm.trans hl'
    exact ⟨_, _, _, rfl, hq, rfl, rfl, rfl, rfl, rfl, hh, hhi⟩

/-- Something other than a request happens. -/
theorem requests_stamp {k : History} {hs : List Happening} (hx : ∀ x ∈ hs, x.requested? = none)
    (hk : k = s.history ++ hs.map (s.now, ·)) :
    k.requests = s.history.requests ∧ k.served = s.history.served ++ hs.map (s.now, ·) := by
  have hreq : History.requests (hs.map (s.now, ·)) = [] := by
    refine List.filterMap_eq_nil_iff.mpr fun e he => ?_
    obtain ⟨x, hm, rfl⟩ := List.mem_map.mp he
    simp [hx x hm]
  have hser : History.served (hs.map (s.now, ·)) = hs.map (s.now, ·) := by
    refine List.filter_eq_self.mpr fun e he => ?_
    obtain ⟨x, hm, rfl⟩ := List.mem_map.mp he
    simp [hx x hm]
  rw [hk, History.requests_append, History.served_append, hreq, hser, List.append_nil]
  exact ⟨rfl, rfl⟩

/-- The restart that waits begins. -/
theorem begin (h : Serving script s vs next rest tail) {r : List Claim} {n : Nat}
    (hl : s.line = .enters (.restart n) :: r)
    (hphase : ∀ t q v, q = Server.afterAll vs → v = q.serve script t → n = v.ticket →
      s.now = v.began → r = [] → s.Holds q.worker q.workers q.served q.stops →
      ∃ rest, Phase script s' (vs ++ [v]) rest [] ∧
        s'.history.requests = s.history.requests ∧
        s'.history.served ++ rest = s.history.served ++ v.trace)
    (hu : s'.unclaimed = s.unclaimed) (hst : s'.tracker.started = s.tracker.started + 1)
    (hd : s'.shutDown = s.shutDown) (hc : s'.changed = s.changed) (ht : s'.tasks = s.tasks) :
    ∃ vs next rest tail, Serving script s' vs next rest tail := by
  obtain ⟨t, q, rfl, rfl, rfl, hu', hq, ho, hh, hb⟩ := h.of_enters hl
  cases ho
  obtain ⟨rest, hp, hr, htr⟩ := hphase t q _ hq rfl rfl hb.symm rfl hh
  have hbook := h.booked
  simp only [Server.waiting, Option.toList_some, List.map_singleton, ← hq] at hbook
  have htrace := h.trace
  rw [List.append_nil] at htrace
  refine ⟨vs ++ [q.serve script t], none, rest, [], ?_, h.served.concat (t := t) (by rw [hq]), ?_,
    hp, ?_, ?_, nofun, hd.trans h.shutDown, hc.trans h.changed, ht.trans h.tasks⟩
  · rw [hr]
    simpa [Server.waiting] using hbook
  · rw [htr, htrace]; simp
  · rw [hu, hu']; exact .nobody
  · rw [hst, h.started]; simp

/-- The restart that began last goes on, or ends. -/
theorem goOn (h : Serving script s vs next rest tail) {hs : List Happening} {k : History}
    (hh : s'.history = s.history ++ hs.map (s.now, ·)) (hx : ∀ x ∈ hs, x.requested? = none)
    (hr : rest = hs.map (s.now, ·) ++ k) (hp : Phase script s' vs k tail)
    (hn : s'.now = s.now) (hu : s'.unclaimed = s.unclaimed)
    (hst : s'.tracker.started = s.tracker.started) (hd : s'.shutDown = s.shutDown)
    (hc : s'.changed = s.changed) (ht : s'.tasks = s.tasks) :
    ∃ vs next rest tail, Serving script s' vs next rest tail := by
  obtain ⟨hreq, hser⟩ := requests_stamp hx hh
  refine ⟨vs, next, k, tail, hreq ▸ h.booked, h.served, ?_, hp, hu ▸ h.behind,
    hst.trans h.started, hn ▸ h.asked, hd.trans h.shutDown, hc.trans h.changed, ht.trans h.tasks⟩
  rw [hser, ← h.trace, hr, List.append_assoc]

/-- The call for a worker returns, and the restart ends. -/
theorem ends {us : List Service} {v : Service} {q : Server}
    (h : Serving script s (us ++ [v]) next v.ending tail) (hq : q = Server.afterAll us)
    (hdue : v.ended ≤ s.now) (hle : s.now ≤ v.ended) {hs : List Happening}
    (hh : s'.history = s.history ++ hs.map (s.now, ·))
    (hx : hs = [.startReturned v.ticket v.start.outcome, v.closing]) (hl : s'.line = tail)
    (hholds : s'.Holds (q.after v).worker (q.after v).workers (q.served + 1) (q.after v).stops)
    (hn : s'.now = s.now) (hu : s'.unclaimed = s.unclaimed)
    (hst : s'.tracker.started = s.tracker.started) (hd : s'.shutDown = s.shutDown)
    (hc : s'.changed = s.changed) (ht : s'.tasks = s.tasks) :
    ∃ vs next rest tail, Serving script s' vs next rest tail := by
  have hnow : s.now = v.ended := Nat.le_antisymm hle hdue
  obtain ⟨-, t, hv⟩ := h.served.of_concat
  have hqv : q.after v = Server.afterAll (us ++ [v]) := by rw [Server.afterAll_concat, hq]
  have hserved : q.served + 1 = (q.after v).served := by rw [hq, hv]; rfl
  rw [hserved] at hholds
  have hphase : Phase script s' (us ++ [v]) [] s'.line :=
    .free hqv hholds (hn ▸ Nat.le_of_eq hnow.symm)
  refine h.goOn (k := []) hh ?_ ?_ (hl ▸ hphase) hn hu hst hd hc ht
  · rw [hx]
    simp only [List.mem_cons, List.not_mem_nil, or_false, forall_eq_or_imp, forall_eq]
    refine ⟨rfl, ?_⟩
    rw [Service.closing]
    split <;> rfl
  · rw [hx, hnow]; rfl

/-- Nothing that the owner of the slot does is a request. -/
theorem not_requested {hs : List Happening} (ht : Turned script s hs s') :
    ∀ x ∈ hs, x.requested? = none := by
  intro x hx
  have := ht.atSlot x hx
  cases x <;> first | rfl | cases this

theorem stopsPrevious (h : Serving script s vs next rest tail) {w : Nat} {r : List Claim}
    (hl : s.line = .enters (.restart n) :: r) (hd : s.shutDown = false) (hw : s.slot = some w) :
    ∃ vs next rest tail, Serving script
      (({ s with tracker := s.tracker.begin n }.note (.began n false)).callStop script
        (.restart n) w) vs next rest tail := by
  have ht : Turned script s _ _ := .stopPrevious hl hd hw
  obtain ⟨hreq, hser⟩ := requests_stamp (not_requested ht) ht.history
  refine h.begin hl ?_ rfl (Tracker.started_begin _ _) rfl rfl rfl
  rintro t q v hq hv rfl hnow rfl hh
  have hqw : q.worker = some w := hh.slot.symm.trans hw
  have hstop : v.stop = some (w, script.stop q.stops) := by rw [hv, Server.serve, hqw]; rfl
  rw [hqw] at hh
  refine ⟨_, .stopping hq hstop ?_ ?_ ?_ ?_, hreq, ?_⟩
  · exact line_stops hstop (congrArg script.stop hh.stops.symm) hnow.symm hh.alive (tail_eq hl)
  · refine State.Holds.callStop ?_ _
    exact ⟨hh.slot, hh.alive, hh.workers, hh.starts, hh.stops⟩
  · exact Nat.le_of_eq hnow.symm
  · exact Nat.le_trans (Nat.le_of_eq hnow) v.began_le_started
  · rw [hser, List.append_assoc, v.trace_of_some hstop, hnow]
    rfl

theorem startsFirst (h : Serving script s vs next rest tail) {r : List Claim}
    (hl : s.line = .enters (.restart n) :: r) (hd : s.shutDown = false) (hw : s.slot = none) :
    ∃ vs next rest tail, Serving script
      (({ s with tracker := s.tracker.begin n }.note (.began n false)).callStart script n)
      vs next rest tail := by
  have ht : Turned script s _ _ := .startFirst hl hd hw
  obtain ⟨hreq, hser⟩ := requests_stamp (not_requested ht) ht.history
  refine h.begin hl ?_ rfl (Tracker.started_begin _ _) rfl rfl rfl
  rintro t q v hq hv rfl hnow rfl hh
  have hqw : q.worker = none := hh.slot.symm.trans hw
  have hstop : v.stop = none := by rw [hv, Server.serve, hqw]; rfl
  have hstarted : v.started = s.now := (v.started_of_none hstop).trans hnow.symm
  rw [hqw] at hh
  refine ⟨v.ending, .starting hq ?_ ?_ ?_ ?_, hreq, ?_⟩
  · refine line_starts ?_ hstarted (tail_eq hl)
    rw [hv]
    exact congrArg script.start hh.starts.symm
  · have hstops : (q.after v).stops = q.stops := by rw [Server.after, hstop]; rfl
    rw [hstops]
    refine State.Holds.callStart ?_ _
    exact ⟨hh.slot, hh.alive, hh.workers, hh.starts, hh.stops⟩
  · exact Nat.le_of_eq hstarted
  · exact Nat.le_trans (Nat.le_of_eq hstarted.symm) v.started_le_ended
  · rw [hser, List.append_assoc, v.trace_of_none hstop, hstarted, ← hnow]
    rfl

theorem startsNext (h : Serving script s vs next rest tail) {w due : Nat}
    {f : Option Worker.Fault} {r : List Claim} (hl : s.line = .stops (.restart n) w due f :: r)
    (hdue : due ≤ s.now) : ∃ vs next rest tail, Serving script
      ((s.note (.stopReturned (.restart n) w f)).callStart script n) vs next rest tail := by
  have ht : Turned script s _ _ := .startNext hl hdue
  obtain ⟨us, q, v, stop, rfl, hq, hw, rfl, ho, rfl, rfl, hr, hh, hle⟩ := h.of_stops hl
  cases ho
  have hnow : s.now = v.started := Nat.le_antisymm hle hdue
  obtain ⟨-, t, hv⟩ := h.served.of_concat
  refine h.goOn ht.history (not_requested ht) (k := v.ending) ?_ (.starting hq ?_ ?_ ?_ ?_)
    rfl rfl rfl rfl rfl rfl
  · rw [hr, hnow]; rfl
  · refine line_starts ?_ hnow.symm (tail_eq hl)
    rw [hv, ← hq]
    exact congrArg script.start hh.starts.symm
  · have hstops : (q.after v).stops = q.stops + 1 := by rw [Server.after, hw]; rfl
    rw [hstops]
    refine State.Holds.callStart ?_ _
    exact ⟨hh.slot, hh.alive, hh.workers, hh.starts, hh.stops⟩
  · exact Nat.le_of_eq hnow.symm
  · exact Nat.le_trans hle v.started_le_ended

theorem installs (h : Serving script s vs next rest tail) {due : Nat} {r : List Claim}
    (hl : s.line = .starts n due .ready :: r) (hdue : due ≤ s.now) :
    ∃ vs next rest tail, Serving script (s.startReturned n .ready) vs next rest tail := by
  have ht : Turned script s _ _ := .install hl hdue
  obtain ⟨us, q, v, rfl, hq, rfl, rfl, ho, rfl, rfl, hh, hle⟩ := h.of_starts hl
  have hsh : (s.startReturned v.ticket .ready).shared =
      s.shared.install.conclude v.ticket .succeeded := shared_installWorker _ _
  have hnews : s.shared.news = [] := by
    rw [Shared.news, show s.shared.changed = false from h.changed]; rfl
  have htasks : (s.startReturned v.ticket .ready).tasks = s.tasks := by
    simp only [State.startReturned, State.installWorker]
    split <;> rfl
  refine h.ends hq hdue hle ht.history ?_ ?_ ?_ (congrArg Shared.now hsh)
    (congrArg Shared.unclaimed hsh) ?_ (congrArg Shared.shutDown hsh) ?_ htasks
  · rw [hnews, Service.closing, ← ho]; rfl
  · exact (congrArg Shared.line hsh).trans (tail_eq hl)
  · have hw : (q.after v).worker = some (q.workers + 1) ∧
        (q.after v).workers = q.workers + 1 := by simp [Server.after, ← ho]
    rw [hw.1, hw.2, ← hh.workers]
    refine ⟨congrArg Shared.slot hsh, (congrArg Shared.alive hsh).trans ?_,
      congrArg Shared.workers hsh, (congrArg Shared.startCalls hsh).trans hh.starts,
      (congrArg Shared.stopCalls hsh).trans hh.stops⟩
    show (s.workers + 1) :: s.alive = _
    rw [hh.alive]; rfl
  · rw [show (s.startReturned v.ticket .ready).tracker = _ from congrArg Shared.tracker hsh]
    rfl
  · exact (congrArg Shared.changed hsh).trans h.changed.symm

/-- A call for a worker that gives none that lives. -/
theorem fails (h : Serving script s vs next rest tail) {due : Nat} {o : StartOutcome}
    {r : List Claim} (hl : s.line = .starts n due o :: r) (hdue : due ≤ s.now)
    (hne : o ≠ .ready) :
    ∃ vs next rest tail, Serving script (s.startReturned n o) vs next rest tail := by
  obtain ⟨us, q, v, rfl, hq, rfl, rfl, ho, rfl, rfl, hh, hle⟩ := h.of_starts hl
  have hworker : (q.after v).worker = none := by simp [Server.after, ← ho, hne]
  cases o with
  | ready => exact absurd rfl hne
  | dead =>
    have ht : Turned script s _ _ := .fail hl hdue .dead
    refine h.ends hq hdue hle ht.history ?_ (tail_eq hl) ?_ rfl rfl rfl rfl rfl rfl
    · rw [Service.closing, ← ho]
    · have hworkers : (q.after v).workers = q.workers + 1 := by simp [Server.after, ← ho]
      rw [hworker, hworkers]
      exact ⟨hh.slot, hh.alive, congrArg (· + 1) hh.workers, hh.starts, hh.stops⟩
  | fault f =>
    have ht : Turned script s _ _ := .fail hl hdue (.fault f)
    refine h.ends hq hdue hle ht.history ?_ (tail_eq hl) ?_ rfl rfl rfl rfl rfl rfl
    · rw [Service.closing, ← ho]
    · have hworkers : (q.after v).workers = q.workers := by simp [Server.after, ← ho]
      rw [hworker, hworkers]
      exact ⟨hh.slot, hh.alive, hh.workers, hh.starts, hh.stops⟩
  | panic =>
    have ht : Turned script s _ _ := .panic hl hdue
    refine h.ends hq hdue hle ht.history ?_ (tail_eq hl) ?_ rfl rfl rfl rfl rfl rfl
    · rw [Service.closing, ← ho]
    · have hworkers : (q.after v).workers = q.workers := by simp [Server.after, ← ho]
      rw [hworker, hworkers]
      exact ⟨hh.slot, hh.alive, hh.workers, hh.starts, hh.stops⟩

/-- The owner of the slot goes on. -/
theorem turn (h : Serving script s vs next rest tail) (ht : s.turn script = some s') :
    ∃ vs next rest tail, Serving script s' vs next rest tail := by
  obtain ⟨hs, ht⟩ := turned ht
  cases ht with
  | skip _ hd => rw [h.shutDown] at hd; cases hd
  | stopPrevious hl hd hw => exact h.stopsPrevious hl hd hw
  | startFirst hl hd hw => exact h.startsFirst hl hd hw
  | startNext hl hdue => exact h.startsNext hl hdue
  | install hl hdue => exact h.installs hl hdue
  | fail hl hdue hf => exact h.fails hl hdue (by cases hf <;> nofun)
  | panic hl hdue => exact h.fails hl hdue nofun
  | stopLast hl | nothingToStop hl =>
    obtain ⟨_, _, _, _, _, _, _, ho, _⟩ := h.of_enters hl
    cases ho
  | stopped hl =>
    obtain ⟨_, _, _, _, _, _, _, _, ho, _⟩ := h.of_stops hl
    cases ho

/-- When nothing can go on, nobody waits and nobody runs, or somebody has a call in progress. -/
theorem of_still (h : Serving script s vs next rest tail) (hst : s.Still script) :
    (next = none ∧ s.line = [] ∧ rest = []) ∨ ∃ x, s.line = x :: tail ∧ x.isCall = true ∧
      s.now < x.due ∧ x.due ≤ (Server.afterAll vs).free ∧ ∀ t y, (t, y) ∈ rest → x.due ≤ t := by
  have hcall {x : Claim} (hl : s.line = x :: tail) : s.now < x.due := by
    rcases Nat.lt_or_ge s.now x.due with hlt | hge
    · exact hlt
    · exact absurd (still_iff.mp hst .turn rfl) (turn_ne_none hl hge)
  have hend (v : Service) {t : Nat} {y : Happening} (hm : (t, y) ∈ v.ending) : t = v.ended := by
    simp only [Service.ending, List.mem_cons, Prod.mk.injEq, List.not_mem_nil, or_false] at hm
    rcases hm with ⟨rfl, -⟩ | ⟨rfl, -⟩ <;> rfl
  have hbehind := h.behind
  cases h.phase with
  | free =>
    left
    generalize hu : s.unclaimed = u at hbehind
    generalize hl : s.line = l at hbehind
    cases hbehind with
    | nobody => exact ⟨rfl, rfl, rfl⟩
    | unclaimed t =>
      have := still_iff.mp hst (.claim ((Server.afterAll vs).served + 1)) rfl
      simp [Restart.step, State.claim, hu] at this
    | inLine t => exact absurd (still_iff.mp hst .turn rfl) (turn_ne_none hl (Nat.zero_le _))
  | @stopping us q v w stop _ hq hw hl =>
    refine .inr ⟨_, hl, rfl, hcall hl, ?_, fun t y hm => ?_⟩
    · rw [Server.afterAll_concat]
      exact v.started_le_ended
    · show v.started ≤ t
      rcases List.mem_cons.mp hm with hm | hm
      · cases hm; exact Nat.le_refl _
      · rcases List.mem_cons.mp hm with hm | hm
        · cases hm; exact Nat.le_refl _
        · rw [hend v hm]; exact v.started_le_ended
  | @starting us q v _ hq hl =>
    refine .inr ⟨_, hl, rfl, hcall hl, ?_, fun t y hm => ?_⟩
    · rw [Server.afterAll_concat]
      exact Nat.le_refl _
    · rw [hend v hm]; exact Nat.le_refl _

/-- The clock moves while nothing else can go on. -/
theorem pass (h : Serving script s vs next rest tail) {ms : Nat}
    (hp : s.prompt script (.pass ms) = true) :
    Serving script { s with now := s.now + ms } vs next rest tail := by
  rw [State.prompt, Bool.and_eq_true, List.all_eq_true, Option.isNone_iff_eq_none] at hp
  obtain ⟨hst, hdl⟩ := hp
  have hlate {x : Claim} {r : List Claim} (hl : s.line = x :: r) (hx : x.isCall = true) :
      s.now + ms ≤ x.due := by
    have hd := hdl x.due (mem_deadlines.mpr (.inr ⟨x, r, hl, hx, rfl⟩))
    rw [Bool.or_eq_true, decide_eq_true_eq, decide_eq_true_eq] at hd
    exact hd.resolve_left fun hle => turn_ne_none hl hle (still_iff.mp hst .turn rfl)
  have hnow : s.now ≤ s.now + ms := Nat.le_add_right _ _
  refine ⟨h.booked, h.served, h.trace, ?_, h.behind, h.started, fun t ht => ?_, h.shutDown,
    h.changed, h.tasks⟩
  · have hs {w k a b} (hh : s.Holds w k a b) :
        State.Holds { s with now := s.now + ms } w k a b :=
      ⟨hh.slot, hh.alive, hh.workers, hh.starts, hh.stops⟩
    cases h.phase with
    | free hq hh hf => exact .free hq (hs hh) (Nat.le_trans hf hnow)
    | stopping hq hw hl hh hlo hhi =>
      exact .stopping hq hw hl (hs hh) (Nat.le_trans hlo hnow) (hlate hl rfl)
    | starting hq hl hh hlo hhi =>
      exact .starting hq hl (hs hh) (Nat.le_trans hlo hnow) (hlate hl rfl)
  · refine ⟨Nat.le_trans (h.asked t ht).1 hnow, ?_⟩
    rcases h.of_still hst with ⟨rfl, -⟩ | ⟨x, hl, hx, -, hfree, -⟩
    · cases ht
    · exact Nat.le_trans (hlate hl hx) (Nat.le_trans hfree (Nat.le_max_right _ _))

theorem step (h : Serving script s vs next rest tail) (hs : Reachable script s) {a : Action}
    (ha : s.onlyRequests script a = true) (hstep : Restart.step script s a = some s') :
    ∃ vs next rest tail, Serving script s' vs next rest tail := by
  simp only [State.onlyRequests, Bool.and_eq_true] at ha
  obtain ⟨hp, ha⟩ := ha
  cases a with
  | request =>
    cases hstep
    exact ⟨_, _, _, _, (h.request hs).1⟩
  | claim n =>
    obtain ⟨tail, h⟩ := h.claim hstep
    exact ⟨_, _, _, tail, h⟩
  | pass ms => cases hstep; exact ⟨_, _, _, _, h.pass hp⟩
  | turn => exact h.turn hstep
  | poll i =>
    have hn : s.poll i = some s' := hstep
    rw [State.poll, h.tasks] at hn
    cases hn
  | _ => cases ha

theorem new : Serving script .new [] none [] [] where
  booked := .nil
  served := .nil
  trace := rfl
  phase := .free rfl ⟨rfl, rfl, rfl, rfl, rfl⟩ (Nat.le_refl _)
  behind := .nobody
  started := rfl
  asked := nofun
  shutDown := rfl
  changed := rfl
  tasks := rfl

theorem run {s₀ : State} (h : Serving script s₀ vs next rest tail) (hs : Reachable script s₀)
    (hr : Run script (State.onlyRequests script) s₀ s) :
    ∃ vs next rest tail, Serving script s vs next rest tail := by
  induction hr with
  | refl => exact ⟨_, _, _, _, h⟩
  | next hr ha hstep ih =>
    obtain ⟨_, _, _, _, h⟩ := ih
    exact h.step (hr.reachable hs) ha hstep

end Serving

end

end DevServer.Restart
