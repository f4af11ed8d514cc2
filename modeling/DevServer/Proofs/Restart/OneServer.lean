import DevServer.Proofs.Restart.Serving
import Mathlib

/-!
# The sequential picture of a dev loop

What a dev loop shows when nothing but requests comes from outside is what one server with one
waiting place does: the tickets, the times, the outcomes and the calls for workers are those of the
services that the requests lead to (`State.Shows`). That holds of every prompt run, whatever the
order in which things go on that can go on at the same time, and of the run that `State.play` takes
through a plan, for which `Ledger.play` computes the services (`restarts_are_served`).
-/

namespace DevServer.Restart

/-- What a dev loop shows of the services that its requests lead to. -/
structure State.Shows (script : Script) (s : State) (vs : List Service) : Prop where
  /-- Requests get the last restart while it has not begun, and else a new one. -/
  requests : Booked script s.history.requests vs
  /-- Whether it has begun is for the order of what happened to say, where the times do not. -/
  tickets : ∀ (past : History) t n joined (later : History),
    s.history = past ++ (t, .requested n joined) :: later →
    n = if past.created.length = past.begun.length then past.created.length + 1
      else past.created.length
  /-- What else has happened is what happens in the services, up to now. -/
  trace : ∃ rest, s.history.served ++ rest = vs.flatMap Service.trace ∧
    ∀ t x, (t, x) ∈ rest → s.now ≤ t ∧ (s.Still script → s.now < t)
  fates : ∀ v ∈ vs, s.tracker.fate? v.ticket =
    some (if (v.ended, v.closing) ∈ s.history then v.fate else .pending)

section
variable {script : Script} {s s' : State} {vs : List Service} {next : Option Nat} {rest : History}
  {tail : List Claim} {n t : Nat} {x : Happening}

theorem Service.fate?_closing (v : Service) : v.closing.fate? = some (v.ticket, v.fate) := by
  rw [closing, fate]
  split <;> rfl

theorem Service.fate_ne_pending (v : Service) : v.fate ≠ .pending := by
  rw [fate]
  split <;> nofun

/-- The one thing in a service that tells what has become of a restart is its end. -/
theorem Service.closing_of_fate? {v : Service} {f : Fate} (h : (t, x) ∈ v.trace)
    (hx : x.fate? = some (n, f)) : (t, x) = (v.ended, v.closing) ∧ n = v.ticket := by
  have hclosing (hc : x = v.closing) : n = v.ticket := by
    rw [hc, fate?_closing] at hx
    cases hx
    rfl
  rcases hv : v.stop with _ | ⟨w, stop⟩
  · simp only [trace_of_none hv, ending, List.mem_cons, Prod.mk.injEq, List.not_mem_nil,
      or_false] at h
    rcases h with ⟨-, rfl⟩ | ⟨-, rfl⟩ | ⟨-, rfl⟩ | ⟨rfl, rfl⟩
    · cases hx
    · cases hx
    · cases hx
    · exact ⟨rfl, hclosing rfl⟩
  · simp only [trace_of_some hv, ending, List.mem_cons, Prod.mk.injEq, List.not_mem_nil,
      or_false] at h
    rcases h with ⟨-, rfl⟩ | ⟨-, rfl⟩ | ⟨-, rfl⟩ | ⟨-, rfl⟩ | ⟨-, rfl⟩ | ⟨rfl, rfl⟩
    · cases hx
    · cases hx
    · cases hx
    · cases hx
    · cases hx
    · exact ⟨rfl, hclosing rfl⟩

namespace Serving

/-- The service that waits begins neither in the past nor, when nothing can go on, now. -/
theorem now_le_began (h : Serving script s vs next rest tail) {v : Service}
    (hv : v ∈ (Server.afterAll vs).waiting script next) :
    s.now ≤ v.began ∧ (s.Still script → s.now < v.began) := by
  obtain ⟨a, ha, rfl⟩ := List.mem_map.mp hv
  have ha : next = some a := Option.mem_toList.mp ha
  refine ⟨(h.asked a ha).2, fun hst => ?_⟩
  rcases h.of_still hst with ⟨hn, -⟩ | ⟨x, -, -, hlt, hfree, -⟩
  · rw [hn] at ha; cases ha
  · exact Nat.lt_of_lt_of_le hlt (Nat.le_trans hfree (Nat.le_max_right _ _))

/-- What is still to happen in the restart that runs is not in the past. -/
theorem now_le_rest (h : Serving script s vs next rest tail) (hm : (t, x) ∈ rest) : s.now ≤ t := by
  cases h.phase with
  | free => cases hm
  | @stopping us q v w stop _ _ _ _ _ _ hhi =>
    have hle := v.started_le_ended
    simp only [Service.ending, List.mem_cons, Prod.mk.injEq, List.not_mem_nil, or_false] at hm
    rcases hm with ⟨rfl, -⟩ | ⟨rfl, -⟩ | ⟨rfl, -⟩ | ⟨rfl, -⟩ <;> omega
  | starting _ _ _ _ hhi =>
    simp only [Service.ending, List.mem_cons, Prod.mk.injEq, List.not_mem_nil, or_false] at hm
    rcases hm with ⟨rfl, -⟩ | ⟨rfl, -⟩ <;> exact hhi

theorem created (h : Serving script s vs next rest tail) (hs : Reachable script s) :
    s.tracker.created = (vs ++ (Server.afterAll vs).waiting script next).length := by
  have hc : s.tracker.created = s.tracker.started + s.tracker.queued.toList.length :=
    hs.ordered.queue.count
  rw [hc, h.started, h.queued hs, List.length_append]
  cases next <;> rfl

/-- What has become of a restart is told by the end of its service. -/
theorem fate?_eq (h : Serving script s vs next rest tail) (hs : Reachable script s) {v : Service}
    (hv : v ∈ vs ++ (Server.afterAll vs).waiting script next) : s.tracker.fate? v.ticket =
      some (if (v.ended, v.closing) ∈ s.history then v.fate else .pending) := by
  split
  · next hm =>
    exact (hs.fated v.ticket v.fate v.fate_ne_pending).mpr ⟨_, _, hm, v.fate?_closing⟩
  · next hm =>
    have hin : v.ticket ∈ upTo s.tracker.created := by
      rw [h.created hs, ← h.booked.served.tickets.1]
      exact List.mem_map_of_mem hv
    obtain ⟨f, hf⟩ : ∃ f, s.tracker.fate? v.ticket = some f := by
      obtain ⟨hpos, hle⟩ := mem_upTo.mp hin
      have hlt : v.ticket - 1 < s.tracker.fates.length := by
        rw [Tracker.created] at hle; omega
      exact ⟨_, by rw [Tracker.fate?, if_neg (by omega), List.getElem?_eq_getElem hlt]⟩
    by_cases hp : f = .pending
    · rw [hf, hp]
    · -- whatever has become of it became of it in a service, and only its own has its ticket
      obtain ⟨t, x, hx, hxf⟩ := (hs.fated v.ticket f hp).mp hf
      have hser : (t, x) ∈ s.history.served :=
        List.mem_filter.mpr ⟨hx, by cases x <;> first | rfl | cases hxf⟩
      have htr : (t, x) ∈ vs.flatMap Service.trace :=
        h.trace ▸ List.mem_append_left _ hser
      obtain ⟨u, hu, hmu⟩ := List.mem_flatMap.mp htr
      obtain ⟨he, hn⟩ := Service.closing_of_fate? hmu hxf
      have huv := h.booked.served.ticket_inj hv (List.mem_append_left _ hu) hn
      rw [huv, ← he] at hm
      exact absurd hx hm

theorem shows (h : Serving script s vs next rest tail) (hs : Reachable script s) :
    s.Shows script (vs ++ (Server.afterAll vs).waiting script next) where
  requests := h.booked
  tickets := fun past t n joined later hh => by
    obtain ⟨hpos, hb, -, hc⟩ := hs.ordered.tally.each past t _ later hh
    rw [hb, hc, length_upTo]
    cases joined with
    | true =>
      have : n ≠ n - 1 := by omega
      simp [this]
    | false => simp; omega
  trace := by
    refine ⟨rest ++ ((Server.afterAll vs).waiting script next).flatMap Service.trace, ?_, ?_⟩
    · rw [← List.append_assoc, h.trace, List.flatMap_append]
    · intro t x hm
      rcases List.mem_append.mp hm with hm | hm
      · refine ⟨h.now_le_rest hm, fun hst => ?_⟩
        rcases h.of_still hst with ⟨-, -, hr⟩ | ⟨y, -, -, hlt, -, hle⟩
        · rw [hr] at hm; cases hm
        · exact Nat.lt_of_lt_of_le hlt (hle t x hm)
      · obtain ⟨v, hv, hm⟩ := List.mem_flatMap.mp hm
        have hle := Service.began_le_of_mem_trace hm
        obtain ⟨hnow, hst⟩ := h.now_le_began hv
        exact ⟨Nat.le_trans hnow hle, fun h => Nat.lt_of_lt_of_le (hst h) hle⟩
  fates := fun _ hv => h.fate?_eq hs hv

end Serving

/-! ## Plans -/

/-- The dev loop follows a plan of pauses, with how many requests are made at once after each. -/
def State.play (script : Script) (s : State) : (plan : List (Nat × Nat)) → State
  | [] => s
  | (pause, count) :: plan =>
    ((s.wait script pause).perform script (List.replicate count .request)).play script plan

/-- Whether a run may take an action in which nothing comes from outside. -/
def State.noRequests (script : Script) (s : State) (a : Action) : Bool :=
  s.onlyRequests script a && a != .request

theorem letsGo_onlyRequests : LetsGo script (State.onlyRequests script) where
  inner := fun s a ha => by cases a <;> first | rfl | cases ha
  pass := fun s ms hp => by simp only [State.onlyRequests, hp, Bool.and_self]

theorem letsGo_noRequests : LetsGo script (State.noRequests script) where
  inner := fun s a ha => by
    rw [State.noRequests, letsGo_onlyRequests.inner s a ha]
    cases a <;> first | rfl | cases ha
  pass := fun s ms hp => by
    rw [State.noRequests, letsGo_onlyRequests.pass s ms hp]
    rfl

namespace Serving

theorem requests_step (h : Serving script s vs next rest tail) {a : Action}
    (ha : s.noRequests script a = true) (hstep : Restart.step script s a = some s') :
    s'.history.requests = s.history.requests := by
  simp only [State.noRequests, State.onlyRequests, Bool.and_eq_true] at ha
  obtain ⟨⟨-, ha⟩, hne⟩ := ha
  cases a with
  | request => cases hne
  | claim n =>
    simp only [Restart.step, State.claim] at hstep
    split at hstep
    · cases hstep; rfl
    · cases hstep
  | pass ms => cases hstep; rfl
  | turn =>
    obtain ⟨hs, ht⟩ := turned hstep
    exact (requests_stamp (not_requested ht) ht.history).1
  | poll i =>
    have hn : s.poll i = some s' := hstep
    rw [State.poll, h.tasks] at hn
    cases hn
  | _ => cases ha

/-- Without requests the services stay the same. -/
theorem quiet_run {s₀ : State} (h : Serving script s₀ vs next rest tail) (hs : Reachable script s₀)
    (hr : Run script (State.noRequests script) s₀ s) :
    ∃ us next' rest tail, Serving script s us next' rest tail ∧
      us ++ (Server.afterAll us).waiting script next' =
        vs ++ (Server.afterAll vs).waiting script next ∧
      s.history.requests = s₀.history.requests := by
  have hall : ∃ us next rest tail, Serving script s us next rest tail ∧
      s.history.requests = s₀.history.requests := by
    induction hr with
    | refl => exact ⟨_, _, _, _, h, rfl⟩
    | @next s _ _ hr ha hstep ih =>
      obtain ⟨_, _, _, _, h, hreq⟩ := ih
      obtain ⟨hok, -⟩ := Bool.and_eq_true_iff.mp ha
      obtain ⟨us, next, rest, tail, h'⟩ := h.step (hr.reachable hs) hok hstep
      exact ⟨us, next, rest, tail, h', (h.requests_step ha hstep).trans hreq⟩
  obtain ⟨us, next', rest', tail', h', hreq⟩ := hall
  exact ⟨us, next', rest', tail', h', (hreq ▸ h'.booked).unique h.booked, hreq⟩

/-- Some requests at once all get the restart after those that have begun. -/
theorem request_all (h : Serving script s vs next rest tail) (hs : Reachable script s) (k : Nat) :
    ∃ s', (List.replicate k Action.request).foldl
        (fun s a => (Restart.step script s a).getD s) s = s' ∧ Reachable script s' ∧
      Serving script s' vs (if k = 0 then next else some (next.getD s.now)) rest tail ∧
      s'.history.requests = s.history.requests ++
        List.replicate k (s.now, (Server.afterAll vs).served + 1) ∧ s'.now = s.now := by
  induction k generalizing s next with
  | zero => exact ⟨s, rfl, hs, h, (List.append_nil _).symm, rfl⟩
  | succ k ih =>
    obtain ⟨hreq, hh⟩ := h.request hs
    obtain ⟨s', hfold, hs', h', hh', hn⟩ := ih hreq (hs.step (a := .request) rfl)
    refine ⟨s', hfold, hs', ?_, ?_, hn⟩
    · rcases k with _ | k <;> exact h'
    · rw [hh', hh, List.append_assoc]
      rfl

/-- When nothing can go on, a restart waits if and only if one has not begun. -/
theorem isSome_iff (h : Serving script s vs next rest tail) (hst : s.Still script) :
    (vs ++ (Server.afterAll vs).waiting script next).any (s.now < ·.began) = next.isSome := by
  rw [List.any_append]
  have hvs : vs.any (s.now < ·.began) = false := by
    simpa using h.phase.began_le h.served
  rw [hvs, Bool.false_or]
  cases next with
  | none => rfl
  | some a =>
    have := (h.now_le_began (List.mem_singleton.mpr rfl)).2 hst
    simpa [Server.waiting] using this

end Serving

/-- What requests at rest lead to: all get the restart after those that have begun, which is a new
one unless one waits. -/
theorem Ledger.burst_eq {l : Ledger} (hs : Served script vs)
    (hl : vs ++ (Server.afterAll vs).waiting script next = l.services) {pause : Nat}
    (hany : l.services.any (l.now + pause < ·.began) = next.isSome) (count : Nat) :
    l.burst script pause count = ⟨l.now + pause,
      l.requests ++ List.replicate count (l.now + pause, (Server.afterAll vs).served + 1),
      vs ++ (Server.afterAll vs).waiting script
        (if count = 0 then next else some (next.getD (l.now + pause)))⟩ := by
  rcases Nat.eq_zero_or_pos count with rfl | hpos
  · simp [Ledger.burst, ← hl]
  · have hne : count ≠ 0 := Nat.ne_of_gt hpos
    have hcond : (count = 0 ∨ l.services.any (l.now + pause < ·.began) = true) ↔
        next.isSome = true := by rw [hany]; simp [hne]
    simp only [Ledger.burst, hcond, if_neg hne, hs.tickets.2]
    cases next with
    | none =>
      have hvs : l.services = vs := by simpa [Server.waiting] using hl.symm
      simp [hvs, Server.waiting]
    | some a => simp [← hl, Server.waiting]

/-- A plan has been followed as a ledger says. -/
structure Played (script : Script) (s : State) (l : Ledger) : Prop where
  run : Run script (State.onlyRequests script) .new s
  still : s.Still script
  now : s.now = l.now
  requests : s.history.requests = l.requests
  serving : ∃ vs next rest tail, Serving script s vs next rest tail ∧
    vs ++ (Server.afterAll vs).waiting script next = l.services

namespace Played

variable {l : Ledger}

theorem new : Played script .new .new :=
  ⟨.refl, rfl, rfl, rfl, _, _, _, _, .new, rfl⟩

theorem burst (h : Played script s l) (pause count : Nat) :
    Played script ((s.wait script pause).perform script (List.replicate count .request))
      (l.burst script pause count) := by
  have hs : Reachable script s := h.run.reachable .new
  obtain ⟨vs, next, rest, tail, hv, hl⟩ := h.serving
  obtain ⟨hrw, hst, hnow⟩ := run_wait letsGo_noRequests hs.fit h.still pause
  obtain ⟨us, next, rest, tail, hw, huv, hreq⟩ := hv.quiet_run hs hrw
  have hsw := hrw.reachable hs
  have hany := hw.isSome_iff hst
  rw [huv, hl] at hany
  obtain ⟨q, hq, hsq, hwq, hreqs, hqn⟩ := hw.request_all hsw count
  obtain ⟨ws, next', rest', tail', hr, hwr, hreqr⟩ :=
    hwq.quiet_run hsq (run_rest letsGo_noRequests q)
  have hperf : (s.wait script pause).perform script (List.replicate count .request) =
      q.rest script := congrArg (State.rest script) hq
  have hrun : Run script (State.onlyRequests script) (s.wait script pause) (q.rest script) := by
    rw [← hperf]
    refine run_perform letsGo_onlyRequests fun a ha s => ?_
    rw [List.eq_of_mem_replicate ha]
    rfl
  have ht : (s.wait script pause).now = l.now + pause := by rw [hnow, h.now]
  have hburst := Ledger.burst_eq hw.served (huv.trans hl) (ht ▸ hany) count
  rw [hperf, hburst]
  refine ⟨h.run.trans ((hrw.mono fun s a ha => (Bool.and_eq_true_iff.mp ha).1).trans hrun),
    still_rest hsq.fit, ?_, ?_, _, _, _, _, hr, ?_⟩
  · rw [now_rest, hqn, ht]
  · rw [hreqr, hreqs, hreq, h.requests, ht]
  · rw [hwr, ht]

theorem play (h : Played script s l) (plan : List (Nat × Nat)) :
    Played script (s.play script plan) (l.play script plan) := by
  induction plan generalizing s l with
  | nil => exact h
  | cons e plan ih => exact ih (h.burst e.1 e.2)

end Played

/-- **Restarts are served one after the other, with one place to wait.** Every prompt run in which
only requests come from outside shows what one server does for them; and following a plan is such a
run, with the tickets and the services that its ledger says. -/
theorem restarts_are_served (script : Script) :
    (∀ s, Run script (State.onlyRequests script) .new s → ∃ vs, s.Shows script vs) ∧
    ∀ plan, Run script (State.onlyRequests script) .new (State.new.play script plan) ∧
      (State.new.play script plan).Still script ∧
      (State.new.play script plan).now = (Ledger.new.play script plan).now ∧
      (State.new.play script plan).history.requests = (Ledger.new.play script plan).requests ∧
      (State.new.play script plan).Shows script (Ledger.new.play script plan).services := by
  refine ⟨fun s hr => ?_, fun plan => ?_⟩
  · obtain ⟨vs, next, rest, tail, h⟩ := Serving.new.run .new hr
    exact ⟨_, h.shows (hr.reachable .new)⟩
  · have h : Played script _ _ := Played.new.play plan
    obtain ⟨vs, next, rest, tail, hv, hl⟩ := h.serving
    exact ⟨h.run, h.still, h.now, h.requests, hl ▸ hv.shows (h.run.reachable .new)⟩

/-- Three requests at once share the restart that waits. It stops the worker before it, which fails
without consequence, and gets no worker, so the third restart has nothing to stop. -/
theorem restarts_are_served_burst : ∃ (script : Script) (s : State),
    script.starts = [⟨500, .ready⟩, ⟨100, .fault (.notReady 100)⟩] ∧
    script.stops = [⟨50, some (.signal 1 "boom")⟩] ∧
    Run script (State.onlyRequests script) .new s ∧ s.now = 2100 ∧
    s.history.requests = [(0, 1), (100, 2), (100, 2), (100, 2), (1100, 3)] ∧
    s.Shows script [⟨1, 0, none, ⟨500, .ready⟩⟩,
      ⟨2, 500, some (1, ⟨50, some (.signal 1 "boom")⟩), ⟨100, .fault (.notReady 100)⟩⟩,
      ⟨3, 1100, none, ⟨500, .ready⟩⟩] := by
  obtain ⟨script, hscript⟩ : ∃ script : Script, script =
    ⟨[⟨500, .ready⟩, ⟨100, .fault (.notReady 100)⟩], [⟨50, some (.signal 1 "boom")⟩]⟩ := ⟨_, rfl⟩
  have hl : Ledger.new.play script [(0, 1), (100, 3), (1000, 1), (1000, 0)] =
      ⟨2100, [(0, 1), (100, 2), (100, 2), (100, 2), (1100, 3)],
        [⟨1, 0, none, ⟨500, .ready⟩⟩,
          ⟨2, 500, some (1, ⟨50, some (.signal 1 "boom")⟩), ⟨100, .fault (.notReady 100)⟩⟩,
          ⟨3, 1100, none, ⟨500, .ready⟩⟩]⟩ := by
    rw [hscript]; cbv
  obtain ⟨hr, -, hn, hreq, hs⟩ :=
    (restarts_are_served script).2 [(0, 1), (100, 3), (1000, 1), (1000, 0)]
  rw [hl] at hn hreq hs
  exact ⟨script, _, by rw [hscript], by rw [hscript], hr, hn, hreq, hs⟩

end

end DevServer.Restart
