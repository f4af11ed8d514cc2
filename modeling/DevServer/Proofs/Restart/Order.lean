import DevServer.Proofs.Restart.Queue

/-!
# Restarts take turns

`Tally h c b o` says that a history is orderly (`History.Orderly`) and has seen the first `c` restarts
created, the first `b` begun and the first `o` ended. Together with what the tracker and the line know
(`Shared.Queued`) it makes `restarts_in_order`: no request is given a restart that has begun, and
restarts take turns in the order of their tickets.
-/

namespace DevServer.Restart

namespace History

/-- The restarts that have been created and have not begun. -/
def queued (h : History) : List Nat := h.created.filter (· ∉ h.begun)

/-- The restarts that have begun and have not come to their end. -/
def running (h : History) : List Nat := h.begun.filter (· ∉ h.closed)

end History

/-! ## Tallies -/

/-- What is neither the creation, the beginning, a call for a worker nor the end of a restart. -/
def Happening.isQuiet : Happening → Bool
  | requested _ _ | began _ _ | startCalled _ | ended _ _ | abandoned _ => false
  | stopCalled _ _ | stopReturned _ _ _ | startReturned _ _ | marked | unmarked | published _
  | buildFailed _ _ | serverBuilt _ | serverBuildLost _ _ | clientWaits _ | clientWaitFailed _ _
  | clientSettled _ | loopFinished | shutdownCalled | workerDied _ | taskEnded _ _ => true

theorem Shared.isQuiet_of_mem_news (c : Shared) : ∀ x ∈ c.news, x.isQuiet = true := by
  unfold news
  split <;> simp [Happening.isQuiet]

theorem Happening.isQuiet_of_ofTask {x : Happening} (h : x.ofTask = true) : x.isQuiet = true := by
  cases x <;> simp_all [ofTask, isQuiet]

theorem Happening.closed?_of_isQuiet {x : Happening} (h : x.isQuiet = true) : x.closed? = none := by
  cases x <;> first | rfl | cases h

open History in
/-- An orderly history in which `c` restarts have been created, `b` have begun and `o` have ended. -/
structure Tally (h : History) (c b o : Nat) : Prop where
  created : h.created = upTo c
  begun : h.begun = upTo b
  closed : h.closed = upTo o
  starting : h.starting ⊆ upTo b
  each : h.Each Orderly

namespace Tally

variable {h : History} {c b o t : Nat}

open History

theorem nil : Tally [] 0 0 0 := ⟨rfl, rfl, rfl, List.nil_subset _, each_nil⟩

/-- One more happening, and what it adds to each tally. -/
theorem concat (hT : Tally h c b o) (x : Happening) (hx : Orderly h x) {c' b' o' : Nat}
    (hc : upTo c ++ x.created?.toList = upTo c') (hb : upTo b ++ x.begun?.toList = upTo b')
    (ho : upTo o ++ x.closed?.toList = upTo o') (hs : ∀ n ∈ x.starting?, n ∈ upTo b') :
    Tally (h ++ [(t, x)]) c' b' o' where
  created := by rw [created_concat, hT.created, hc]
  begun := by rw [begun_concat, hT.begun, hb]
  closed := by rw [closed_concat, hT.closed, ho]
  starting := by
    rw [starting_concat, List.append_subset]
    refine ⟨fun n hn => ?_, fun n hn => hs n (Option.mem_toList.mp hn)⟩
    rw [← hb]; exact List.mem_append_left _ (hT.starting hn)
  each := each_concat.mpr ⟨hT.each, hx⟩

theorem quiet (hT : Tally h c b o) {x : Happening} (hx : x.isQuiet = true) :
    Tally (h ++ [(t, x)]) c b o := by
  have hp : Orderly h x := by cases x <;> trivial
  have hn : x.created? = none ∧ x.begun? = none ∧ x.starting? = none ∧ x.closed? = none := by
    cases x <;> first | exact ⟨rfl, rfl, rfl, rfl⟩ | cases hx
  obtain ⟨n1, n2, n3, n4⟩ := hn
  exact hT.concat x hp (by simp [n1]) (by simp [n2]) (by simp [n4]) (by simp [n3])

theorem quiets (hT : Tally h c b o) {hs : List Happening} (hq : ∀ x ∈ hs, x.isQuiet = true) :
    Tally (h ++ hs.map (t, ·)) c b o := by
  induction hs generalizing h with
  | nil => simpa using hT
  | cons x hs ih =>
    rw [List.map_cons, List.append_cons]
    exact ih (hT.quiet (hq x (by simp))) fun y hy => hq y (by simp [hy])

theorem create (hT : Tally h b b o) :
    Tally (h ++ [(t, .requested (b + 1) false)]) (b + 1) b o :=
  hT.concat (.requested (b + 1) false) ⟨b.succ_pos, hT.begun, hT.starting, hT.created⟩
    (upTo_succ b).symm (List.append_nil _) (List.append_nil _) nofun

theorem join (hT : Tally h (b + 1) b o) :
    Tally (h ++ [(t, .requested (b + 1) true)]) (b + 1) b o :=
  hT.concat (.requested (b + 1) true) ⟨b.succ_pos, hT.begun, hT.starting, hT.created⟩
    (List.append_nil _) (List.append_nil _) (List.append_nil _) nofun

theorem begin (hT : Tally h (b + 1) b b) (skipped : Bool) :
    Tally (h ++ [(t, .began (b + 1) skipped)]) (b + 1) (b + 1) b :=
  hT.concat (.began (b + 1) skipped) ⟨b.succ_pos, hT.created, hT.begun, hT.closed⟩
    (List.append_nil _) (upTo_succ b).symm (List.append_nil _) nofun

theorem start (hT : Tally h c (o + 1) o) :
    Tally (h ++ [(t, .startCalled (o + 1))]) c (o + 1) o :=
  hT.concat (.startCalled (o + 1)) ⟨o.succ_pos, hT.begun, hT.closed⟩
    (List.append_nil _) (List.append_nil _) (List.append_nil _) (by rintro n ⟨⟩; simp)

theorem finish (hT : Tally h c (o + 1) o) {k : Conclusion}
    (hk : k ≠ .skipped → o + 1 ∈ h.starting) :
    Tally (h ++ [(t, .ended (o + 1) k)]) c (o + 1) (o + 1) :=
  hT.concat (.ended (o + 1) k) ⟨o.succ_pos, hT.begun, hT.closed, hk⟩
    (List.append_nil _) (List.append_nil _) (upTo_succ o).symm nofun

theorem abandon (hT : Tally h c (o + 1) o) (hk : o + 1 ∈ h.starting) :
    Tally (h ++ [(t, .abandoned (o + 1))]) c (o + 1) (o + 1) :=
  hT.concat (.abandoned (o + 1)) ⟨o.succ_pos, hT.begun, hT.closed, hk⟩
    (List.append_nil _) (List.append_nil _) (upTo_succ o).symm nofun

end Tally

/-! ## The invariant -/

/-- The history is orderly, and it has seen what the tracker and the line say. -/
structure Ordered (h : History) (c : Shared) : Prop where
  queue : c.Queued
  tally : Tally h c.tracker.created c.tracker.started (c.tracker.started - c.running.length)
  starting : ∀ n due o, Claim.starts n due o ∈ c.line → n ∈ h.starting

namespace Ordered

variable {script : Script} {h : History} {c c' : Shared} {hs : List Happening} {n : Nat}
  {rest : List Claim}

/-- Moves that leave the tracker and the restarts in the line as they are. -/
theorem quiet (ho : Ordered h c) (hq : ∀ x ∈ hs, x.isQuiet = true) (ht : c'.tracker = c.tracker)
    (hw : c'.waiting = c.waiting) (hr : c'.running = c.running)
    (hl : ∀ n due o, Claim.starts n due o ∈ c'.line → Claim.starts n due o ∈ c.line) :
    Ordered (h ++ hs.map (c.now, ·)) c' where
  queue := ho.queue.congr (by rw [ht]) (by rw [ht]) (by rw [ht]) (by rw [ht]) hw (.inl hr)
  tally := by rw [ht, hr]; exact ho.tally.quiets hq
  starting := fun n due o hm => by
    rw [History.starting_append]
    exact List.mem_append_left _ (ho.starting n due o (hl n due o hm))

/-- A shutdown at the head of the line goes on, or leaves. -/
theorem quiet_shutdown (ho : Ordered h c) {x : Claim} {task : Nat} (hl : c.line = x :: rest)
    (hx : x.owner = .shutdown task) (hq : ∀ x ∈ hs, x.isQuiet = true)
    (ht : c'.tracker = c.tracker) (hu : c'.unclaimed = c.unclaimed)
    (hl' : c'.line = rest ∨ ∃ y : Claim, y.owner = .shutdown task ∧ c'.line = y :: rest) :
    Ordered (h ++ hs.map (c.now, ·)) c' := by
  have he := Claim.entering?_of_shutdown hx
  have hr := Claim.running?_of_shutdown hx
  rcases hl' with hl' | ⟨y, hy, hl'⟩
  · refine ho.quiet hq ht ?_ ?_ fun n due o hm => ?_
    · simp [Shared.waiting, hu, hl, hl', he]
    · simp [Shared.running, hl, hl', hr]
    · rw [hl'] at hm; rw [hl]; exact List.mem_cons_of_mem _ hm
  · refine ho.quiet hq ht ?_ ?_ fun n due o hm => ?_
    · simp [Shared.waiting, hu, hl, hl', he, Claim.entering?_of_shutdown hy]
    · simp [Shared.running, hl, hl', hr, Claim.running?_of_shutdown hy]
    · rw [hl'] at hm; rw [hl]
      rcases List.mem_cons.mp hm with rfl | hm
      · cases hy
      · exact List.mem_cons_of_mem _ hm

/-- Nobody behind the head of the line runs. -/
theorem running_rest (hc : c.Held) {x : Claim} (hl : c.line = x :: rest) :
    rest.filterMap Claim.running? = [] :=
  List.filterMap_eq_nil_iff.mpr fun y hy => Claim.running?_of_not_isCall (hc.rest hl y hy)

theorem not_starts_rest (hc : c.Held) {x : Claim} (hl : c.line = x :: rest) {due : Nat}
    {o : StartOutcome} : Claim.starts n due o ∉ rest := fun hm => by
  cases hc.rest hl _ hm

/-- What holds when a restart is about to begin. -/
theorem of_enters (ho : Ordered h c) (hl : c.line = .enters (.restart n) :: rest)
    (hr : rest.filterMap Claim.running? = []) :
    ∃ b, n = b + 1 ∧ c.tracker.started = b ∧ c.tracker.created = b + 1 ∧ Tally h (b + 1) b b := by
  obtain ⟨-, hn, hcr, -, -⟩ := ho.queue.of_enters hl
  have hrun : c.running = [] := by rw [Shared.running, hl, List.filterMap_cons, hr]; rfl
  have hT := ho.tally
  rw [hrun, hcr, hn] at hT
  exact ⟨_, hn, rfl, hcr.trans hn, hT⟩

/-- What holds while a restart has a call in progress. -/
theorem of_running (ho : Ordered h c) {x : Claim} (hl : c.line = x :: rest)
    (hx : x.running? = some n) :
    ∃ o, n = o + 1 ∧ c.tracker.started = o + 1 ∧ Tally h c.tracker.created (o + 1) o := by
  obtain ⟨hn, hpos, hrun, hr⟩ := ho.queue.of_running hl hx
  have hT := ho.tally
  rw [hrun, ← hn] at hT
  obtain ⟨o, rfl⟩ : ∃ o, n = o + 1 := ⟨n - 1, by omega⟩
  exact ⟨o, rfl, hn.symm, hT⟩

theorem request (ho : Ordered h c) :
    Ordered (h ++ [(c.now, .requested c.tracker.ticket c.tracker.queued.isSome)])
      { c with
        tracker := c.tracker.request
        unclaimed := if c.tracker.queued.isSome then c.unclaimed
          else c.unclaimed ++ [c.tracker.ticket] } where
  queue := ho.queue.request
  tally := by
    have hT := ho.tally
    show Tally _ c.tracker.request.created c.tracker.request.started
      (c.tracker.request.started - c.running.length)
    rcases ho.queue.queued with ⟨hq, hcr⟩ | ⟨hq, hcr⟩
    · rw [hcr] at hT
      rw [Tracker.created_request_of_none _ hq, Tracker.started_request, Tracker.ticket, hq, hcr]
      exact hT.create
    · rw [hcr] at hT
      rw [Tracker.request_of_queued hq |>.1, Tracker.ticket, hq, hcr]
      exact hT.join
  starting := fun n due o hm => by
    rw [History.starting_append]; exact List.mem_append_left _ (ho.starting n due o hm)

/-- A restart gets the slot, and `x` is its call. -/
theorem begin (ho : Ordered h c) (hc : c.Held) (hl : c.line = .enters (.restart n) :: rest)
    (ht : c'.tracker = c.tracker.begin n) (hu : c'.unclaimed = c.unclaimed) {x : Claim}
    (hx : x.running? = some n) (hl' : c'.line = x :: rest) {h' : History}
    (hT : Tally h' n n (n - 1)) (hs : ∀ due o, x = .starts n due o → n ∈ h'.starting) :
    Ordered h' c' := by
  obtain ⟨b, rfl, hst, hcr, -⟩ := ho.of_enters hl (running_rest hc hl)
  have hxe : x.entering? = none := by cases x <;> first | rfl | cases hx
  have hrun : c'.running = [b + 1] := by
    rw [Shared.running, hl', List.filterMap_cons, hx, running_rest hc hl]
  have he : c'.line.filterMap Claim.entering? = rest.filterMap Claim.entering? := by
    rw [hl', List.filterMap_cons, hxe]
  have hq := ho.queue.begin hl he (.inr hrun)
  refine ⟨hq.congr ?_ ?_ ?_ ?_ ?_ (.inl rfl), ?_, ?_⟩
  · rw [ht]
  · rw [ht]
  · rw [ht]
  · rw [ht]
  · rw [Shared.waiting, hu]; rfl
  · rw [ht, hrun, Tracker.created_begin, Tracker.started_begin, hcr, hst]
    exact hT
  · intro m due o hm
    rw [hl'] at hm
    rcases List.mem_cons.mp hm with rfl | hm
    · cases hx; exact hs due o rfl
    · exact absurd hm (not_starts_rest hc hl)

/-- A restart comes to its end. -/
theorem finish (ho : Ordered h c) (hc : c.Held) {x : Claim} (hl : c.line = x :: rest)
    (hx : x.running? = some n) (hq : c'.tracker.queued = c.tracker.queued)
    (hcr : c'.tracker.created = c.tracker.created) (hst : c'.tracker.started = c.tracker.started)
    (hr : c'.tracker.running = c.tracker.running) (hu : c'.unclaimed = c.unclaimed)
    (hl' : c'.line = rest) {h' : History} (hT : Tally h' c.tracker.created n n) :
    Ordered h' c' := by
  have hxe : x.entering? = none := by cases x <;> first | rfl | cases hx
  have hrun : c'.running = [] := by rw [Shared.running, hl', running_rest hc hl]
  refine ⟨ho.queue.congr hq hcr hst hr ?_ (.inr hrun), ?_, ?_⟩
  · rw [Shared.waiting, Shared.waiting, hu, hl', hl, List.filterMap_cons, hxe]
  · obtain ⟨o, rfl, ho', -⟩ := ho.of_running hl hx
    rw [hrun, hcr, hst, ho']
    exact hT
  · intro m due o hm
    rw [hl'] at hm
    exact absurd hm (not_starts_rest hc hl)

/-- A restart that gets the slot after the shutdown ends at once. -/
theorem skip (ho : Ordered h c) (hc : c.Held) (hl : c.line = .enters (.restart n) :: rest) :
    Ordered (h ++ [.began n true, .ended n .skipped].map (c.now, ·))
      ((c.begin n).conclude n .skipped) := by
  obtain ⟨b, rfl, hst, hcr, hT⟩ := ho.of_enters hl (running_rest hc hl)
  have hrun := running_rest hc hl
  have hl' : c.line.tail = rest := by rw [hl]; rfl
  have hq := ho.queue.begin hl rfl (.inl hrun)
  refine ⟨hq.congr rfl (Tracker.created_finish _ _ _) rfl rfl ?_ (.inl ?_), ?_, ?_⟩
  · simp only [Shared.waiting, Shared.conclude, Shared.begin, hl']
  · simp only [Shared.running, Shared.conclude, Shared.begin, hl']
  · have hT' := (hT.begin (t := c.now) true).finish (t := c.now) (k := .skipped) (absurd rfl ·)
    simpa [Shared.conclude, Shared.begin, Shared.running, hl', hrun, hst, hcr] using hT'
  · intro n due o hm
    have hm : Claim.starts n due o ∈ c.line.tail := hm
    rw [hl'] at hm
    exact absurd hm (not_starts_rest hc hl)

/-- A restart that has stopped the worker before it calls for the next one. -/
theorem startNext (ho : Ordered h c) (hc : c.Held) {w due : Nat} {f : Option Worker.Fault}
    (hl : c.line = .stops (.restart n) w due f :: rest) :
    Ordered (h ++ [.stopReturned (.restart n) w f, .startCalled n].map (c.now, ·))
      (c.callStart script n) := by
  obtain ⟨o, rfl, hst, hT⟩ := ho.of_running hl rfl
  have hw : (c.callStart script (o + 1)).waiting = c.waiting := by
    simp [Shared.waiting, Shared.callStart, hl, List.filterMap_cons, Claim.entering?]
  have hrun : (c.callStart script (o + 1)).running = [o + 1] := by
    simp [Shared.running, Shared.callStart, hl, Claim.running?, running_rest hc hl]
  refine ⟨ho.queue.congr rfl rfl rfl rfl hw (.inl ?_), ?_, ?_⟩
  · rw [hrun, (ho.queue.of_running hl rfl).2.2.1]
  · rw [List.map_cons, List.append_cons, hrun]
    show Tally _ c.tracker.created c.tracker.started (c.tracker.started - 1)
    rw [hst]
    exact (hT.quiet rfl).start
  · intro n due o hm
    rcases List.mem_cons.mp hm with hx | hm
    · cases hx
      simp [History.starting, Happening.starting?]
    · rw [hl] at hm
      exact absurd hm (not_starts_rest hc hl)

theorem move (ho : Ordered h c) (hc : c.Held) (hm : Move script c hs c') :
    Ordered (h ++ hs.map (c.now, ·)) c' := by
  cases hm with
  | task hx =>
    exact ho.quiet (by simpa using Happening.isQuiet_of_ofTask hx) rfl rfl rfl fun _ _ _ => id
  | request => exact ho.request
  | mark | unmark | die => exact ho.quiet (by simp [Happening.isQuiet]) rfl rfl rfl fun _ _ _ => id
  | pass => exact ho.quiet (List.forall_mem_nil _) rfl rfl rfl fun _ _ _ => id
  | claim hn =>
    obtain ⟨hu, he⟩ := ho.queue.of_mem_unclaimed hn
    refine ho.quiet (List.forall_mem_nil _) rfl ?_ ?_ ?_
    · simp [Shared.waiting, hu, he, Claim.entering?]
    · simp [Shared.running, Claim.running?]
    · simp
  | shutDown task =>
    refine ho.quiet (by simp [Happening.isQuiet]) rfl ?_ ?_ ?_
    · simp [Shared.waiting, Claim.entering?]
    · simp [Shared.running, Claim.running?]
    · simp
  | giveUp task =>
    refine ho.quiet (List.forall_mem_nil _) rfl ?_ ?_ fun n due o hm => (List.mem_filter.mp hm).1
    · rw [Shared.waiting, filterMap_giveUp fun x => Claim.entering?_of_shutdown]; rfl
    · exact filterMap_giveUp (fun x => Claim.running?_of_shutdown) c.line
  | skip hl hd => exact ho.skip hc hl
  | stopPrevious hl hd hw =>
    obtain ⟨b, rfl, -, -, hT⟩ := ho.of_enters hl (running_rest hc hl)
    refine ho.begin hc hl (by rfl) (by rfl) (x := .stops (.restart (b + 1)) _ _ _) rfl
      (by rw [Shared.callStop, Shared.begin, hl]; rfl) ?_ fun _ _ h => by cases h
    rw [List.map_cons, List.append_cons]
    exact (hT.begin _).quiet rfl
  | startFirst hl hd hw =>
    obtain ⟨b, rfl, -, -, hT⟩ := ho.of_enters hl (running_rest hc hl)
    refine ho.begin hc hl (by rfl) (by rfl) (x := .starts (b + 1) _ _) rfl
      (by rw [Shared.callStart, Shared.begin, hl]; rfl) ?_ ?_
    · rw [List.map_cons, List.append_cons]
      exact (hT.begin _).start
    · intro due o _
      simp [History.starting, Happening.starting?]
  | startNext hl ht => exact ho.startNext hc hl
  | stopLast hl hw =>
    exact ho.quiet_shutdown hl rfl (by simp [Happening.isQuiet]) rfl rfl
      (.inr ⟨_, rfl, by rw [Shared.callStop, hl]; rfl⟩)
  | nothingToStop hl hw =>
    exact ho.quiet_shutdown hl rfl (List.forall_mem_nil _) rfl rfl
      (.inl (by rw [Shared.leave, hl]; rfl))
  | stopped hl ht =>
    exact ho.quiet_shutdown hl rfl (by simp [Happening.isQuiet]) rfl rfl
      (.inl (by rw [Shared.leave, hl]; rfl))
  | install hl ht =>
    obtain ⟨o, rfl, -, hT⟩ := ho.of_running hl rfl
    refine ho.finish hc hl rfl (by rfl) (Tracker.created_finish _ _ _) (by rfl) (by rfl) (by rfl)
      (by rw [Shared.conclude, Shared.install, hl]; rfl) ?_
    rw [List.map_append, ← List.append_assoc]
    have hq : ∀ x ∈ Happening.startReturned (o + 1) .ready :: c.news, x.isQuiet = true := by
      simpa [Happening.isQuiet] using c.isQuiet_of_mem_news
    exact (hT.quiets hq).finish fun _ => by
      simp [ho.starting _ _ _ (hl ▸ List.mem_cons_self ..)]
  | fail hl ht hf hw =>
    obtain ⟨o, rfl, -, hT⟩ := ho.of_running hl rfl
    refine ho.finish hc hl rfl (by rfl) (Tracker.created_finish _ _ _) (by rfl) (by rfl) (by rfl)
      (by rw [Shared.conclude, hl]; rfl) ?_
    rw [List.map_cons, List.append_cons]
    exact (hT.quiet rfl).finish fun _ => by
      simp [ho.starting _ _ _ (hl ▸ List.mem_cons_self ..)]
  | panic hl ht =>
    obtain ⟨o, rfl, -, hT⟩ := ho.of_running hl rfl
    refine ho.finish hc hl rfl (by rfl) (Tracker.created_setFate _ _ _) (by rfl) (by rfl) (by rfl)
      (by rw [Shared.leave, hl]; rfl) ?_
    rw [List.map_cons, List.append_cons]
    refine (hT.quiet rfl).abandon ?_
    simp [ho.starting _ _ _ (hl ▸ List.mem_cons_self ..)]

theorem moves {k : History} (ho : Ordered h c) (hc : c.Held) (hm : Moves script c k c') :
    Ordered (h ++ k) c' := by
  induction hm with
  | refl => simpa using ho
  | move hms hm ih =>
    rw [← List.append_assoc]
    exact ih.move (hc.moves hms) hm

theorem new : Ordered [] State.new.shared where
  queue := ⟨rfl, .inl ⟨rfl, rfl⟩, rfl, .inl rfl⟩
  tally := .nil
  starting := nofun

end Ordered

theorem Reachable.ordered {script : Script} {s : State} (h : Reachable script s) :
    Ordered s.history s.shared := .moves .new .new h.moves

/-! ## What callers see -/

/-- What the order of restarts comes to in a state. -/
structure State.InOrder (s : State) : Prop where
  /-- A request is given a restart that has not begun, so the worker that this restart starts is
  started after the request. -/
  fresh : ∀ (past : History) t n joined (later : History),
    s.history = past ++ (t, .requested n joined) :: later →
    n ∉ past.begun ∧ n ∉ past.starting ∧
      ((∃ u k, (u, .ended n k) ∈ s.history ∧ k ≠ .skipped) ∨ (∃ u, (u, .abandoned n) ∈ s.history) →
        n ∈ later.starting)
  /-- So it is for a request made now. -/
  ticket : s.tracker.ticket ∉ s.history.begun
  created : s.history.created = upTo s.tracker.created
  begun : s.history.begun = upTo s.tracker.started
  /-- A restart begins when it has been created and all restarts before it have ended. -/
  turns : ∀ (past : History) t n skipped (later : History),
    s.history = past ++ (t, .began n skipped) :: later →
    past.created = upTo n ∧ past.begun = upTo (n - 1) ∧ past.closed = upTo (n - 1)
  queued : s.history.queued = s.tracker.queued.toList
  running : s.history.running.length ≤ 1
  /-- The queued restart has a task that waits for its turn, and no other restart has. -/
  waiting : s.unclaimed ++ s.line.filterMap Claim.entering? = s.tracker.queued.toList
  /-- A restart that is about to begin finds its own ticket queued. -/
  own : ∀ n, s.line.head? = some (.enters (.restart n)) → s.tracker.queued = some n
  count : s.tracker.created = s.tracker.started + s.tracker.queued.toList.length
  current : s.tracker.current? =
    if s.tracker.created = 0 then none else some s.tracker.created

theorem filter_not_mem_upTo (n : Nat) : (upTo n).filter (· ∉ upTo n) = [] :=
  List.filter_eq_nil_iff.mpr fun m hm => by simp only [hm]; decide

theorem filter_not_mem_upTo_succ (n : Nat) : (upTo (n + 1)).filter (· ∉ upTo n) = [n + 1] := by
  rw [upTo_succ, List.filter_append, filter_not_mem_upTo]
  simp

section
variable {h : History} {c : Shared}

theorem Ordered.queued (ho : Ordered h c) : h.queued = c.tracker.queued.toList := by
  rw [History.queued, ho.tally.created, ho.tally.begun]
  rcases ho.queue.queued with ⟨hq, hc⟩ | ⟨hq, hc⟩
  · rw [hq, hc, filter_not_mem_upTo]; rfl
  · rw [hq, hc, filter_not_mem_upTo_succ]; rfl

theorem Ordered.length_running (ho : Ordered h c) : h.running.length ≤ 1 := by
  rw [History.running, ho.tally.begun, ho.tally.closed]
  rcases ho.queue.running with hr | ⟨hr, hpos⟩
  · rw [hr, List.length_nil, Nat.sub_zero, filter_not_mem_upTo]; simp
  · obtain ⟨o, ho'⟩ : ∃ o, c.tracker.started = o + 1 := ⟨c.tracker.started - 1, by omega⟩
    rw [hr, ho', List.length_singleton, Nat.add_sub_cancel, filter_not_mem_upTo_succ]; simp

theorem Ordered.current (ho : Ordered h c) : c.tracker.current? =
    if c.tracker.created = 0 then none else some c.tracker.created := by
  rw [Tracker.current?, ho.queue.last]
  rcases ho.queue.queued with ⟨hq, hc⟩ | ⟨hq, hc⟩
  · rw [hq, hc]; rfl
  · rw [hq, hc]; simp

/-- A restart that has come to its end otherwise than by being skipped has called for a worker. -/
theorem Ordered.starting_of_closed (ho : Ordered h c) {n : Nat}
    (hn : (∃ u k, (u, .ended n k) ∈ h ∧ k ≠ .skipped) ∨ ∃ u, (u, .abandoned n) ∈ h) :
    n ∈ h.starting := by
  rcases hn with ⟨u, k, hm, hk⟩ | ⟨u, hm⟩
  · obtain ⟨a, b, rfl⟩ := List.append_of_mem hm
    obtain ⟨-, -, -, hs⟩ := ho.tally.each a u _ b rfl
    rw [History.starting_append]
    exact List.mem_append_left _ (hs hk)
  · obtain ⟨a, b, rfl⟩ := List.append_of_mem hm
    obtain ⟨-, -, -, hs⟩ := ho.tally.each a u _ b rfl
    rw [History.starting_append]
    exact List.mem_append_left _ hs

/-- No call for a worker comes before a request that is given the restart. -/
theorem Ordered.fresh (ho : Ordered h c) {past later : History} {t n : Nat} {joined : Bool}
    (hh : h = past ++ (t, .requested n joined) :: later) :
    n ∉ past.begun ∧ n ∉ past.starting ∧ (n ∈ h.starting → n ∈ later.starting) := by
  obtain ⟨hpos, hb, hst, -⟩ := ho.tally.each past t _ later hh
  have hns : n ∉ past.starting := fun hn => by
    have := mem_upTo.mp (hst hn)
    omega
  refine ⟨fun hn => ?_, hns, fun hn => ?_⟩
  · rw [hb, mem_upTo] at hn; omega
  · rw [hh, History.starting_append] at hn
    rcases List.mem_append.mp hn with hn | hn
    · exact absurd hn hns
    · simpa [History.starting, Happening.starting?] using hn

end

/-- **Restarts take turns, and no request is lost by joining one.** -/
theorem restarts_in_order {script : Script} {s : State} (hs : Reachable script s) : s.InOrder := by
  have ho := hs.ordered
  refine ⟨fun past t n joined later hh => ?_, ?_, ho.tally.created, ho.tally.begun,
    fun past t n skipped later hh => ?_, ho.queued, ho.length_running, ho.queue.waiting,
    fun n hn => ?_, ho.queue.count, ho.current⟩
  · obtain ⟨hb, hst, hl⟩ := ho.fresh hh
    exact ⟨hb, hst, fun hn => hl (ho.starting_of_closed hn)⟩
  · have ht : s.tracker.ticket = s.tracker.started + 1 := ho.queue.ticket
    have hb : s.history.begun = upTo s.tracker.started := ho.tally.begun
    rw [ht, hb, mem_upTo]; omega
  · obtain ⟨-, hc, hb, ho⟩ := ho.tally.each past t _ later hh
    exact ⟨hc, hb, ho⟩
  · obtain ⟨rest, hl⟩ : ∃ rest, s.line = .enters (.restart n) :: rest := by
      rcases hl : s.line with _ | ⟨x, rest⟩ <;> simp_all
    exact (ho.queue.of_enters hl).1

/-- Two requests are made while the first restart is running, and share the second one. -/
theorem restarts_in_order_burst : ∃ s, Reachable ⟨[], []⟩ s ∧ s.InOrder ∧
    s.history.starting = [1, 2] ∧ (0, .requested 2 true) ∈ s.history := by
  obtain ⟨s, hf, hst, hm⟩ : ∃ s,
      State.new.follow? ⟨[], []⟩ anyAction
        [.request, .claim 1, .turn, .request, .request, .pass 500, .turn, .claim 2, .turn, .pass 50,
          .turn] = some s ∧
      s.history.starting = [1, 2] ∧ s.history[4]? = some (0, .requested 2 true) :=
    ⟨_, rfl, rfl, rfl⟩
  have hs := (run_follow? hf).reachable .new
  exact ⟨s, hs, restarts_in_order hs, hst, List.mem_of_getElem? hm⟩

end DevServer.Restart
