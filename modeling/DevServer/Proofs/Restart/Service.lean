import Mathlib.Data.List.Nodup
import DevServer.Proofs.Restart.History

/-!
# A server with one waiting place

The sequential picture of restarts. One server serves them one after the other, and one more may
wait. `Server` is what the restarts served so far leave behind, `Server.serve` is the next restart,
and `Booked script requests services` says which services requests lead to: a request gets the
restart that is still to begin, or a new one. `Ledger.burst` computes them for requests that are
made at rest.
-/

namespace DevServer.Restart

/-- One restart: it stops the worker before it, if there is one, and starts its own. -/
structure Service where
  ticket : Nat
  began : Nat
  /-- The worker that is stopped, and how the call for that goes. -/
  stop : Option (Nat × StopScript)
  start : StartScript
  deriving DecidableEq, Repr

namespace Service

variable (v : Service)

/-- When the call for its own worker is made. -/
def started : Nat := v.began + (v.stop.map (·.2.ms)).getD 0

def ended : Nat := v.started + v.start.ms

/-- What becomes of it, which is for the start alone to say. -/
def fate : Fate :=
  match v.start.outcome with
  | .ready => .ended .succeeded
  | .dead => .ended (.failed (Worker.Fault.exited none).reason)
  | .fault f => .ended (.failed f.reason)
  | .panic => .abandoned

def closing : Happening :=
  match v.start.outcome with
  | .ready => .ended v.ticket .succeeded
  | .dead => .ended v.ticket (.failed (.exited none))
  | .fault f => .ended v.ticket (.failed f)
  | .panic => .abandoned v.ticket

/-- What happens when its call for a worker returns. -/
def ending : History := [(v.ended, .startReturned v.ticket v.start.outcome), (v.ended, v.closing)]

/-- All that happens in it. -/
def trace : History :=
  (v.began, .began v.ticket false) ::
    (match v.stop with
    | some (w, stop) =>
      [(v.began, .stopCalled (.restart v.ticket) w),
        (v.started, .stopReturned (.restart v.ticket) w stop.fault)]
    | none => []) ++
    (v.started, .startCalled v.ticket) :: v.ending

variable {v} in
theorem started_of_none (h : v.stop = none) : v.started = v.began := by
  rw [started, h]; rfl

variable {v} in
theorem started_of_some {w : Nat} {stop : StopScript} (h : v.stop = some (w, stop)) :
    v.started = v.began + stop.ms := by
  rw [started, h]; rfl

variable {v} in
theorem trace_of_none (h : v.stop = none) : v.trace =
    (v.began, .began v.ticket false) :: (v.started, .startCalled v.ticket) :: v.ending := by
  rw [trace, h]; rfl

variable {v} in
theorem trace_of_some {w : Nat} {stop : StopScript} (h : v.stop = some (w, stop)) : v.trace =
    (v.began, .began v.ticket false) :: (v.began, .stopCalled (.restart v.ticket) w) ::
      (v.started, .stopReturned (.restart v.ticket) w stop.fault) ::
      (v.started, .startCalled v.ticket) :: v.ending := by
  rw [trace, h]; rfl

theorem began_le_started : v.began ≤ v.started := Nat.le_add_right _ _

theorem started_le_ended : v.started ≤ v.ended := Nat.le_add_right _ _

theorem began_le_of_mem_trace {v : Service} {t : Nat} {x : Happening} (h : (t, x) ∈ v.trace) :
    v.began ≤ t := by
  have hs := v.began_le_started
  have he := v.started_le_ended
  rcases hv : v.stop with _ | ⟨w, stop⟩
  · simp only [trace_of_none hv, ending, List.mem_cons, Prod.mk.injEq, List.not_mem_nil,
      or_false] at h
    rcases h with ⟨rfl, -⟩ | ⟨rfl, -⟩ | ⟨rfl, -⟩ | ⟨rfl, -⟩ <;> omega
  · simp only [trace_of_some hv, ending, List.mem_cons, Prod.mk.injEq, List.not_mem_nil,
      or_false] at h
    rcases h with ⟨rfl, -⟩ | ⟨rfl, -⟩ | ⟨rfl, -⟩ | ⟨rfl, -⟩ | ⟨rfl, -⟩ | ⟨rfl, -⟩ <;> omega

end Service

/-- What the restarts served so far leave behind. -/
structure Server where
  served : Nat
  /-- When the last one ended. -/
  free : Nat
  /-- The worker of the last one, if that succeeded. -/
  worker : Option Nat
  workers : Nat
  stops : Nat
  deriving DecidableEq, Repr

namespace Server

def new : Server := ⟨0, 0, none, 0, 0⟩

/-- The next restart, if it is created at the time `asked`. -/
def serve (script : Script) (q : Server) (asked : Nat) : Service where
  ticket := q.served + 1
  began := max asked q.free
  stop := q.worker.map (·, script.stop q.stops)
  start := script.start q.served

/-- A restart has been served. -/
def after (q : Server) (v : Service) : Server where
  served := v.ticket
  free := v.ended
  worker := if v.start.outcome = .ready then some (q.workers + 1) else none
  workers := q.workers + if v.start.outcome = .ready ∨ v.start.outcome = .dead then 1 else 0
  stops := q.stops + v.stop.toList.length

def afterAll (vs : List Service) : Server := vs.foldl after new

theorem afterAll_concat (vs : List Service) (v : Service) :
    afterAll (vs ++ [v]) = (afterAll vs).after v := by
  rw [afterAll, List.foldl_append]; rfl

end Server

/-- Each restart is served by what those before it leave behind. -/
inductive Served (script : Script) : List Service → Prop where
  | nil : Served script []
  | concat {vs : List Service} {v : Service} {t : Nat} (h : Served script vs)
    (hv : v = (Server.afterAll vs).serve script t) : Served script (vs ++ [v])

namespace Served

variable {script : Script} {vs : List Service}

/-- Tickets count the restarts. -/
theorem tickets (h : Served script vs) :
    vs.map Service.ticket = upTo vs.length ∧ (Server.afterAll vs).served = vs.length := by
  induction h with
  | nil => exact ⟨rfl, rfl⟩
  | @concat vs v _ _ hv ih =>
    have ht : v.ticket = vs.length + 1 := by rw [hv, ← ih.2]; rfl
    rw [List.map_append, ih.1, Server.afterAll_concat, List.length_append, List.length_singleton,
      upTo_succ, ← ht]
    exact ⟨rfl, rfl⟩

theorem ticket_concat {v : Service} (h : Served script (vs ++ [v])) : v.ticket = vs.length + 1 := by
  have ht := h.tickets.1
  rw [List.map_append, List.length_append, List.length_singleton, upTo_succ] at ht
  exact List.singleton_inj.mp (List.append_inj' ht rfl).2

theorem ticket_inj (h : Served script vs) {u v : Service} (hu : u ∈ vs) (hv : v ∈ vs)
    (huv : u.ticket = v.ticket) : u = v := by
  have hnd : (vs.map Service.ticket).Nodup := by rw [h.tickets.1]; exact List.nodup_range'
  exact List.inj_on_of_nodup_map hnd hu hv huv

theorem of_concat {v : Service} (h : Served script (vs ++ [v])) :
    Served script vs ∧ ∃ t, v = (Server.afterAll vs).serve script t := by
  generalize hw : vs ++ [v] = ws at h
  cases h with
  | nil => simp at hw
  | concat h hv =>
    obtain ⟨hvs, hlast⟩ := List.append_inj' hw rfl
    cases hvs
    cases hlast
    exact ⟨h, _, hv⟩

/-- All have ended when the server is free. -/
theorem ended_le (h : Served script vs) : ∀ u ∈ vs, u.ended ≤ (Server.afterAll vs).free := by
  induction h with
  | nil => exact nofun
  | @concat vs v t _ hv ih =>
    rw [Server.afterAll_concat]
    intro u hu
    rcases List.mem_append.mp hu with hu | hu
    · have hfree : (Server.afterAll vs).free ≤ v.began := by rw [hv]; exact Nat.le_max_right _ _
      exact Nat.le_trans (ih u hu) (Nat.le_trans hfree
        (Nat.le_trans v.began_le_started v.started_le_ended))
    · rw [List.mem_singleton.mp hu]; exact Nat.le_refl _

end Served

/-- Requests, with their times and the tickets they get, and the restarts they lead to. -/
inductive Booked (script : Script) : List (Nat × Nat) → List Service → Prop where
  | nil : Booked script [] []
  /-- The last restart has not begun. -/
  | join {rs : List (Nat × Nat)} {vs : List Service} {v : Service} {t : Nat}
    (h : Booked script rs (vs ++ [v])) (ht : t ≤ v.began) :
    Booked script (rs ++ [(t, v.ticket)]) (vs ++ [v])
  /-- All restarts have begun. -/
  | create {rs : List (Nat × Nat)} {vs : List Service} {v : Service} {t : Nat}
    (h : Booked script rs vs) (ht : ∀ u ∈ vs, u.began ≤ t)
    (hv : v = (Server.afterAll vs).serve script t) :
    Booked script (rs ++ [(t, v.ticket)]) (vs ++ [v])

theorem Booked.served {script : Script} {rs : List (Nat × Nat)} {vs : List Service}
    (h : Booked script rs vs) : Served script vs := by
  induction h with
  | nil => exact .nil
  | join _ _ ih => exact ih
  | create _ _ hv ih => exact ih.concat hv

/-- The tickets that requests get tell which restarts they lead to. -/
theorem Booked.unique {script : Script} {rs : List (Nat × Nat)} {vs ws : List Service}
    (hv : Booked script rs vs) (hw : Booked script rs ws) : vs = ws := by
  have hinj {rs rs' : List (Nat × Nat)} {t t' n n' : Nat} (h : rs ++ [(t, n)] = rs' ++ [(t', n')]) :
      rs = rs' ∧ t = t' ∧ n = n' := by
    obtain ⟨hrs, hlast⟩ := List.append_inj' h rfl
    exact ⟨hrs, Prod.mk.inj (List.singleton_inj.mp hlast)⟩
  -- a request cannot both join a restart and create the one after it
  have hne {us : List Service} {u v : Service} {t : Nat} (hu : Served script (us ++ [u]))
      (hv : v = (Server.afterAll (us ++ [u])).serve script t) : u.ticket ≠ v.ticket := by
    have h1 := hu.ticket_concat
    have h2 := (hu.concat hv).ticket_concat
    rw [List.length_append, List.length_singleton] at h2
    omega
  induction hv generalizing ws with
  | nil =>
    generalize hr : ([] : List (Nat × Nat)) = rs at hw
    cases hw with
    | nil => rfl
    | join | create => simp at hr
  | @join rs vs v t hb _ ih =>
    generalize hr : rs ++ [(t, v.ticket)] = rs' at hw
    cases hw with
    | nil => simp at hr
    | join hw => exact ih ((hinj hr).1 ▸ hw)
    | create hw _ hv' =>
      obtain ⟨hrs, -, ht⟩ := hinj hr
      have hws := ih (hrs ▸ hw)
      rw [← hws] at hv'
      exact absurd ht (hne hb.served hv')
  | @create rs vs v t hb _ hv ih =>
    generalize hr : rs ++ [(t, v.ticket)] = rs' at hw
    cases hw with
    | nil => simp at hr
    | join hw =>
      obtain ⟨hrs, -, ht⟩ := hinj hr
      have hws := ih (hrs ▸ hw)
      rw [hws] at hv
      exact absurd ht.symm (hne hw.served hv)
    | create hw _ hv' =>
      obtain ⟨hrs, ht, -⟩ := hinj hr
      have hws := ih (hrs ▸ hw)
      rw [← hws] at hv' ⊢
      rw [hv, hv', ht]

/-! ## Requests at rest -/

/-- Requests and restarts up to a time. -/
structure Ledger where
  now : Nat
  requests : List (Nat × Nat)
  services : List Service
  deriving DecidableEq, Repr

namespace Ledger

def new : Ledger := ⟨0, [], []⟩

/-- Some requests at once, made when everything up to that time has happened. -/
def burst (script : Script) (l : Ledger) (pause count : Nat) : Ledger :=
  let t := l.now + pause
  let vs :=
    if count = 0 ∨ l.services.any (t < ·.began) then l.services
    else l.services ++ [(Server.afterAll l.services).serve script t]
  ⟨t, l.requests ++ List.replicate count (t, vs.length), vs⟩

/-- A plan of pauses, with how many requests are made after each. -/
def play (script : Script) (l : Ledger) : (plan : List (Nat × Nat)) → Ledger
  | [] => l
  | (pause, count) :: plan => (l.burst script pause count).play script plan

end Ledger

end DevServer.Restart
