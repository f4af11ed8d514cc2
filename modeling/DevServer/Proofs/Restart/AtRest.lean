import DevServer.Proofs.Restart.Shutdown

/-!
# Nothing gets stuck

A coordinator is at rest when nobody can claim the slot or go on with it and no call is in progress
(`State.AtRest`). Then nobody is left behind: the line is empty, and every restart that was ever
asked for has come to its end. Whatever has failed before, the next restart that gets a live worker
succeeds with that worker in the slot (`Revived`).
-/

namespace DevServer.Restart

/-- No restart and no shutdown can go on, and no call for a worker is in progress. -/
structure State.AtRest (script : Script) (s : State) : Prop where
  claim : ∀ n, step script s (.claim n) = none
  turn : step script s .turn = none
  calls : s.calls = []

section
variable {script : Script} {s s' : State} {n u : Nat}

/-- At rest nobody waits for the slot, and nobody has it. -/
theorem atRest_iff : s.AtRest script ↔ s.line = [] ∧ s.unclaimed = [] := by
  constructor
  · intro h
    constructor
    · rcases hl : s.line with _ | ⟨x, rest⟩
      · rfl
      · -- the head of the line has no call in progress, so it could go on
        have hx : x.isCall = false := by
          have hc := List.filter_eq_nil_iff.mp h.calls x (by rw [hl]; exact List.mem_cons_self ..)
          simpa using hc
        cases x with
        | enters owner => exact absurd h.turn (turn_ne_none hl (Nat.zero_le _))
        | stops | starts => cases hx
    · refine List.eq_nil_iff_forall_not_mem.mpr fun n hn => ?_
      have := h.claim n
      simp [step, State.claim, hn] at this
  · rintro ⟨hl, hu⟩
    exact ⟨fun n => by simp [step, State.claim, hu], by simp [step, State.turn, hl],
      by simp [State.calls, hl]⟩

/-- Whoever asks for a restart is given one that has been created. -/
theorem Reachable.created_of_requested (hs : Reachable script s) {joined : Bool}
    (hm : (u, .requested n joined) ∈ s.history) : n ∈ s.history.created := by
  cases joined with
  | false => exact List.mem_filterMap.mpr ⟨_, hm, rfl⟩
  | true =>
    obtain ⟨a, b, hh⟩ := List.append_of_mem hm
    obtain ⟨hpos, -, -, hc⟩ := hs.ordered.tally.each a u _ b hh
    rw [hh, History.created_append, hc]
    exact List.mem_append_left _ (mem_upTo.mpr ⟨hpos, Nat.le_refl n⟩)

/-- Waiting for a restart that has come to its end gives something. -/
theorem Reachable.settled_of_closed (hs : Reachable script s) (hn : n ∈ s.history.closed) :
    ∃ o, s.tracker.settled? n = some o := by
  obtain ⟨⟨u, x⟩, hx, hxn⟩ := List.mem_filterMap.mp hn
  cases x <;> cases hxn
  · exact ⟨_, hs.settled?_iff.mpr ⟨u, _, _, hx, rfl, rfl⟩⟩
  · exact ⟨_, hs.settled?_iff.mpr ⟨u, _, _, hx, rfl, rfl⟩⟩

/-- At rest no restart is queued. -/
theorem Reachable.queued_eq_none (hs : Reachable script s) (hl : s.line = [])
    (hu : s.unclaimed = []) : s.tracker.queued = none := by
  have hw := hs.ordered.queue.waiting
  rw [Shared.waiting, show s.shared.unclaimed = [] from hu, show s.shared.line = [] from hl] at hw
  exact Option.toList_eq_nil_iff.mp hw.symm

/-- A restart that is requested now has not come to its end before. -/
theorem Reachable.not_closed_of_requested (hs : Reachable script s) {past later : History}
    (hh : s.history = past ++ later) {joined : Bool} (hm : (u, .requested n joined) ∈ later) :
    n ∉ past.closed := by
  intro hc
  obtain ⟨a, b, rfl⟩ := List.append_of_mem hm
  have hb := hs.begun_of_closed hh hc
  rw [← List.append_assoc] at hh
  obtain ⟨hpos, hbegun, -⟩ := hs.ordered.tally.each _ u _ b hh
  have hn : n ∈ upTo (n - 1) := by
    rw [← hbegun, History.begun_append]; exact List.mem_append_left _ hb
  rw [mem_upTo] at hn
  omega

/-! ## The end of a restart -/

/-- The restart `n` succeeds in the step from `s` to `s'`: its call for a worker comes back with a
live one, and this worker and nobody else is alive, in the slot. -/
structure Revived (s s' : State) (n : Nat) : Prop where
  calls : ∃ due, s.calls = [.starts n due .ready]
  returned : ∃ k, s'.history = s.history ++ (s.now, .startReturned n .ready) :: k ++
    [(s'.now, .ended n .succeeded)]
  settled : s'.tracker.settled? n = some .succeeded
  slot : s'.slot = some (s.workers + 1)
  living : s'.living = [s.workers + 1]

theorem revived_install (hs : Reachable script s) (h : step script s .turn = some s') {due : Nat}
    {rest : List Claim} (hl : s.line = .starts n due .ready :: rest)
    (hs' : s' = s.startReturned n .ready)
    (hh : s'.history = s.history ++
      (.startReturned n .ready :: s.shared.news ++ [.ended n .succeeded] : List Happening).map
        (s.now, ·)) : Revived s s' n := by
  have hr' : Reachable script s' := hs.step h
  have hshared : s'.shared = s.shared.install.conclude n .succeeded := by
    rw [hs']; exact shared_installWorker _ n
  have hnow : s'.now = s.now := congrArg Shared.now hshared
  have halive : s.alive = [] := hs.held.alive_eq_nil (hs.held.slot_eq_none hl rfl)
  constructor
  case calls => exact ⟨due, by rw [calls_eq hs.held hl]; rfl⟩
  case returned =>
    refine ⟨s.shared.news.map (s.now, ·), ?_⟩
    rw [hh, hnow]
    simp
  case settled =>
    exact hr'.settled?_iff.mpr ⟨s.now, .ended n .succeeded, _, by rw [hh]; simp, rfl, rfl⟩
  case slot => exact congrArg Shared.slot hshared
  case living =>
    have hline : s'.line = rest := (congrArg Shared.line hshared).trans (tail_eq hl)
    have hal : s'.alive = (s.workers + 1) :: s.alive := congrArg Shared.alive hshared
    have hstop : s'.line.filterMap Claim.stopping? = [] := by
      rw [hline]
      exact List.filterMap_eq_nil_iff.mpr fun y hy =>
        Claim.stopping?_of_not_isCall (hs.held.rest hl y hy)
    rw [State.living, hal, halive, hstop]; rfl

theorem Happening.atSlot_of_closed? {x : Happening} (h : x.closed? = some n) : x.atSlot = true := by
  cases x <;> first | rfl | cases h

/-- How a restart comes to its end: it is skipped, or its call for a worker comes back. -/
theorem Turned.ends {hs : List Happening} (h : Turned script s hs s') {x : Happening} (hx : x ∈ hs)
    (hn : x.closed? = some n) :
    (s.shutDown = true ∧ ∃ rest, s.line = .enters (.restart n) :: rest) ∨
      (∃ o, .startReturned n o ∈ hs ∧ o ≠ .ready) ∨
      ∃ due rest, s.line = .starts n due .ready :: rest ∧ s' = s.startReturned n .ready ∧
        hs = .startReturned n .ready :: s.shared.news ++ [.ended n .succeeded] := by
  cases h with
  | skip hl hd =>
    simp only [List.mem_cons, List.not_mem_nil, or_false] at hx
    rcases hx with rfl | rfl <;> cases hn
    exact .inl ⟨hd, _, hl⟩
  | install hl =>
    rcases List.mem_append.mp hx with hx | hx
    · rcases List.mem_cons.mp hx with rfl | hx
      · cases hn
      · rw [Happening.closed?_of_isQuiet (s.shared.isQuiet_of_mem_news x hx)] at hn; cases hn
    · rw [List.mem_singleton.mp hx] at hn
      cases hn
      exact .inr (.inr ⟨_, _, hl, rfl, rfl⟩)
  | fail hl ht hf =>
    simp only [List.mem_cons, List.not_mem_nil, or_false] at hx
    rcases hx with rfl | rfl <;> cases hn
    refine .inr (.inl ⟨_, List.mem_cons_self .., ?_⟩)
    rintro rfl; cases hf
  | panic hl ht =>
    simp only [List.mem_cons, List.not_mem_nil, or_false] at hx
    rcases hx with rfl | rfl <;> cases hn
    exact .inr (.inl ⟨_, List.mem_cons_self .., nofun⟩)
  | stopPrevious | startFirst | startNext | stopLast | nothingToStop | stopped =>
    simp only [List.mem_cons, List.not_mem_nil, or_false] at hx
    rcases hx with rfl | rfl <;> cases hn

/-- A restart that is not skipped, and whose call does not fail, succeeds when it ends. -/
theorem revived_step {a : Action} (hs : Reachable script s) (h : step script s a = some s')
    (hn : n ∉ s.history.closed) (hn' : n ∈ s'.history.closed)
    (hskip : n ∉ s.history.begun → ∀ u, (u, .shutdownCalled) ∉ s.history)
    (hready : ∀ u o, (u, .startReturned n o) ∈ s'.history → o = .ready) : Revived s s' n := by
  obtain ⟨k, -, hk⟩ := evolves_step h
  rw [hk, History.closed_append] at hn'
  obtain ⟨⟨u, x⟩, hx, hxn⟩ := List.mem_filterMap.mp ((List.mem_append.mp hn').resolve_left hn)
  obtain ⟨rfl, hs', ht, rfl, hmem⟩ := turned_of_atSlot h hk hx (Happening.atSlot_of_closed? hxn)
  rcases ht.ends hmem hxn with ⟨hd, rest, hl⟩ | ⟨o, ho, hne⟩ | ⟨due, rest, hl, hs', rfl⟩
  · obtain ⟨u, hu⟩ := hs.halting.flag.mp hd
    refine absurd hu (hskip (fun hb => ?_) u)
    obtain ⟨-, hst, -⟩ := hs.ordered.queue.of_enters hl
    rw [hs.ordered.tally.begun, mem_upTo] at hb
    omega
  · refine absurd (hready s.now o ?_) hne
    rw [hk]
    exact List.mem_append_right _ (History.mem_stamp.mpr ⟨rfl, ho⟩)
  · exact revived_install hs h hl hs' hk

end

/-! ## Recovery -/

/-- Every restart that is requested from `s` on succeeds, unless a shutdown is called before it
begins or its call for a worker comes back without a live one. -/
def State.Recovers (script : Script) (s : State) : Prop :=
  ∀ r a, FairRun script r a → r 0 = s → ∀ i (later : History) u n joined,
    (r i).history = s.history ++ later → (u, .requested n joined) ∈ later →
    (∀ j v, n ∉ (r j).history.begun → (v, .shutdownCalled) ∉ (r j).history) →
    (∀ j v o, (v, .startReturned n o) ∈ (r j).history → o = .ready) →
    ∃ j, Revived (r j) (r (j + 1)) n

theorem exists_first {p : Nat → Prop} (h0 : ¬p 0) {j : Nat} (hj : p j) : ∃ i, ¬p i ∧ p (i + 1) := by
  induction j with
  | zero => exact absurd hj h0
  | succ j ih =>
    by_cases hp : p j
    · exact ih hp
    · exact ⟨j, hp, hj⟩

theorem FairRun.recovers {script : Script} (s : State) : s.Recovers script := by
  rintro r a hf rfl i later u n joined hh hm hskip hready
  have hri := hf.reachable_at i
  have hreq : (u, .requested n joined) ∈ (r i).history := by
    rw [hh]; exact List.mem_append_right _ hm
  obtain ⟨j, -, hj⟩ := hf.closes (hri.created_of_requested hreq)
  obtain ⟨k, hk, hk'⟩ := exists_first (p := fun k => n ∈ (r k).history.closed)
    (hri.not_closed_of_requested hh hm) hj
  exact ⟨k, revived_step (hf.reachable_at k) (hf.step k) hk hk' (fun hn v => hskip k v hn)
    (hready (k + 1))⟩

/-- **Nothing gets stuck.** At rest the slot is free, no restart is queued, and waiting for any
restart that was ever asked for gives something at once; and the next request that gets a live
worker succeeds, whatever failed before. -/
theorem restarts_never_stuck {script : Script} {s : State} (hs : Reachable script s)
    (hrest : s.AtRest script) :
    s.line = [] ∧ s.tracker.queued = none ∧
      (∀ u n joined, (u, .requested n joined) ∈ s.history →
        ∃ o, s.tracker.settled? n = some o) ∧
      s.Recovers script := by
  obtain ⟨hl, hu⟩ := atRest_iff.mp hrest
  refine ⟨hl, hs.queued_eq_none hl hu, fun u n joined hm => hs.settled_of_closed ?_,
    FairRun.recovers s⟩
  rcases hs.whereabouts (hs.created_of_requested hm) with hc | hw | ⟨x, hx, -⟩
  · exact hc
  · rw [hu] at hw; cases hw
  · rw [hl] at hx; cases hx

/-- The first restart's task dies. The coordinator comes to rest, and the next restart gets a
worker. -/
theorem recovers_after_panic : ∃ s r a j, Reachable ⟨[⟨100, .panic⟩], []⟩ s ∧
    s.AtRest ⟨[⟨100, .panic⟩], []⟩ ∧ (100, .abandoned 1) ∈ s.history ∧
    s.tracker.settled? 1 = some (.failed "restart abandoned") ∧
    FairRun ⟨[⟨100, .panic⟩], []⟩ r a ∧ r 0 = s ∧ a 0 = .request ∧ Revived (r j) (r (j + 1)) 2 := by
  obtain ⟨s, s', hf, hf', hh, hh', hreq, hl, hu, hl', hu', h1⟩ : ∃ s s',
      State.new.follow? ⟨[⟨100, .panic⟩], []⟩ anyAction
        [.request, .claim 1, .turn, .pass 100, .turn] = some s ∧
      s.follow? ⟨[⟨100, .panic⟩], []⟩ anyAction
        [.request, .claim 2, .turn, .pass 500, .turn] = some s' ∧
      s.history = [(0, .requested 1 false), (0, .began 1 false), (0, .startCalled 1),
        (100, .startReturned 1 .panic), (100, .abandoned 1)] ∧
      s'.history = s.history ++ [(100, .requested 2 false), (100, .began 2 false),
        (100, .startCalled 2), (600, .startReturned 2 .ready), (600, .ended 2 .succeeded)] ∧
      s.request.history = s.history ++ [(100, .requested 2 false)] ∧
      s.line = [] ∧ s.unclaimed = [] ∧ s'.line = [] ∧ s'.unclaimed = [] ∧
      s.tracker.settled? 1 = some (.failed "restart abandoned") :=
    ⟨_, _, rfl, rfl, rfl, rfl, rfl, rfl, rfl, rfl, rfl, rfl⟩
  have hs := (run_follow? hf).reachable .new
  have hrest : s.AtRest ⟨[⟨100, .panic⟩], []⟩ := atRest_iff.mpr ⟨hl, hu⟩
  obtain ⟨r, a, hfair, h0, ha, hpre⟩ := FairRun.of_follow? hs hf' hl' hu'
  have ha0 : a 0 = .request := ha _ rfl
  have hsub {i : Nat} {e : Nat × Happening} (he : e ∈ (r i).history) : e ∈ s'.history :=
    (hpre i).subset he
  obtain ⟨-, -, -, hrec⟩ := restarts_never_stuck hs hrest
  have hstep := hfair.step 0
  rw [ha0, h0] at hstep
  have h1' : (r 1).history = s.history ++ [(100, .requested 2 false)] := by
    rw [← Option.some.inj hstep]; exact hreq
  obtain ⟨j, hj⟩ := hrec r a hfair h0 1 _ 100 2 false h1' (List.mem_singleton.mpr rfl)
    (fun j v _ hv => by simpa [hh', hh] using hsub hv)
    (fun j v o ho => by
      have hm : v = 600 ∧ o = .ready := by simpa [hh', hh] using hsub ho
      exact hm.2)
  exact ⟨s, r, a, j, hs, hrest, by simp [hh], h1, hfair, h0, ha0, hj⟩

end DevServer.Restart
