import DevServer.Http.Health
import DevServer.Proofs.Restart.Fates

/-!
# What is told of a restart that has ended

The outcome of a restart is told in four places: to whoever waits for its ticket, by the ticket
itself, in the coordinator's report of itself and on `/health`. They agree on a restart if and only
if it was not abandoned (`views_agree_iff`). Of an abandoned one only a waiter learns that it
failed; its ticket stays pending, and the report still tells how the last restart ended that did end
with an outcome.
-/

namespace DevServer.Restart

/-- The outcome that is reported when this happens. -/
def Happening.outcome? : Happening → Option Outcome
  | ended _ k => some k.outcome
  | _ => none

/-- The outcomes that restarts ended with. -/
def History.outcomes (h : History) : List Outcome := h.filterMap (·.2.outcome?)

/-- All that is told of the restart `n`, which has come to its end, is that it ended with `o`. -/
structure State.ViewsAgree (s : State) (n : Nat) (o : Outcome) : Prop where
  settled : s.tracker.settled? n = some o
  isSettled : s.tracker.isSettled n = true
  status : s.tracker.status n = .ended o
  last : s.history.closed.getLast? = some n → s.snapshot.last = some (.ended o)
  health : s.history.closed.getLast? = some n →
    ∀ subscribers, (⟨s.snapshot, subscribers⟩ : Http.Health).isDegraded = true ↔ o ≠ .succeeded

/-! ## The last outcome -/

theorem Happening.outcome?_of_closed? {x : Happening} (h : x.closed? = none) :
    x.outcome? = none := by
  cases x <;> first | rfl | cases h

theorem Happening.outcome?_of_isQuiet {x : Happening} (h : x.isQuiet = true) : x.outcome? = none :=
  outcome?_of_closed? (closed?_of_isQuiet h)

section
variable {script : Script} {h k : History} {c c' : Shared} {hs : List Happening} {n t : Nat}

theorem History.outcomes_append : outcomes (h ++ k) = h.outcomes ++ k.outcomes :=
  List.filterMap_append

theorem History.outcomes_of_none (hk : ∀ t x, (t, x) ∈ k → x.outcome? = none) :
    outcomes k = [] :=
  List.filterMap_eq_nil_iff.mpr fun e he => hk e.1 e.2 he

theorem History.getLast?_outcomes {x : Happening} {o : Outcome} (hx : x.outcome? = some o)
    (hk : ∀ u y, (u, y) ∈ k → y.outcome? = none) :
    (outcomes (h ++ (t, x) :: k)).getLast? = some o := by
  have hcons : outcomes ((t, x) :: k) = o :: outcomes k := List.filterMap_cons_some (a := (t, x)) hx
  rw [outcomes_append, hcons, outcomes_of_none hk, List.getLast?_append, List.getLast?_singleton,
    Option.some_or]

/-- Where the restart came to its end that did so last. -/
theorem History.of_getLast?_closed (hn : h.closed.getLast? = some n) :
    ∃ past t x later, h = past ++ (t, x) :: later ∧ x.closed? = some n ∧
      ∀ u y, (u, y) ∈ later → y.closed? = none := by
  rw [closed, List.getLast?_filterMap, List.findSome?_eq_some_iff] at hn
  obtain ⟨later, ⟨t, x⟩, past, hh, hx, hlater⟩ := hn
  refine ⟨past.reverse, t, x, later.reverse, ?_, hx, fun u y hy => ?_⟩
  · rw [← List.reverse_reverse h, hh]; simp
  · exact hlater (u, y) (List.mem_reverse.mp hy)

/-- A move reports nothing or, last thing, the outcome of a restart. -/
theorem Move.last (hm : Move script c hs c') :
    (∀ x ∈ hs, x.outcome? = none) ∧ c'.tracker.last = c.tracker.last ∨
    ∃ pre x o, hs = pre ++ [x] ∧ x.outcome? = some o ∧ c'.tracker.last = some (.ended o) := by
  have hbegin (n : Nat) : (c.tracker.begin n).last = c.tracker.last := by
    unfold Tracker.begin; split <;> rfl
  cases hm with
  | task hx =>
    refine .inl ⟨fun y hy => ?_, rfl⟩
    rw [List.mem_singleton.mp hy]
    exact Happening.outcome?_of_isQuiet (Happening.isQuiet_of_ofTask hx)
  | request =>
    refine .inl ⟨by simp [Happening.outcome?], ?_⟩
    show c.tracker.request.last = _
    unfold Tracker.request; split <;> rfl
  | mark | unmark | die | shutDown | stopLast | stopped | startNext =>
    exact .inl ⟨by simp [Happening.outcome?], rfl⟩
  | pass | claim | giveUp | nothingToStop => exact .inl ⟨nofun, rfl⟩
  | stopPrevious | startFirst => exact .inl ⟨by simp [Happening.outcome?], hbegin _⟩
  | skip => exact .inr ⟨[_], _, _, rfl, rfl, rfl⟩
  | install => exact .inr ⟨_, _, _, rfl, rfl, rfl⟩
  | fail => exact .inr ⟨[_], _, _, rfl, rfl, rfl⟩
  | panic => exact .inl ⟨by simp [Happening.outcome?], rfl⟩

/-- The tracker keeps the outcome that was reported last. -/
theorem Moves.last (hl : c.tracker.last = h.outcomes.getLast?.map .ended)
    (hm : Moves script c k c') : c'.tracker.last = (h ++ k).outcomes.getLast?.map .ended := by
  refine hm.preserves (P := fun h c => c.tracker.last = h.outcomes.getLast?.map .ended) ?_ hl
  intro h c hs c' hl hm
  rcases hm.last with ⟨hx, hc⟩ | ⟨pre, x, o, rfl, hx, hc⟩
  · have hk : History.outcomes (hs.map (c.now, ·)) = [] :=
      History.outcomes_of_none fun t x hm => hx x (History.mem_stamp.mp hm).2
    rw [hc, hl, History.outcomes_append, hk, List.append_nil]
  · rw [hc, List.map_append, List.map_singleton, ← List.append_assoc,
      History.getLast?_outcomes (k := []) hx nofun]
    rfl

end

/-! ## The views -/

section
variable {script : Script} {s : State} {n t : Nat}

theorem Reachable.last (hs : Reachable script s) :
    s.snapshot.last = s.history.outcomes.getLast?.map .ended := hs.moves.last (h := []) rfl

/-- A restart that has ended with an outcome was not abandoned. -/
theorem Reachable.not_abandoned_of_ended (hs : Reachable script s) {u : Nat} {k : Conclusion}
    (hk : (t, .ended n k) ∈ s.history) : (u, .abandoned n) ∉ s.history := by
  intro ha
  obtain ⟨past, later, hh⟩ := List.append_of_mem hk
  obtain ⟨past', later', hh'⟩ := List.append_of_mem ha
  cases (hs.closed_once hh hh' rfl rfl).2

/-- A restart that ended with an outcome is told of in the same way everywhere. -/
theorem Reachable.viewsAgree_of_ended (hs : Reachable script s) {k : Conclusion}
    (hk : (t, .ended n k) ∈ s.history) : s.ViewsAgree n k.outcome := by
  have hf : s.tracker.fate? n = some (.ended k.outcome) :=
    (hs.fated n (.ended k.outcome) nofun).mpr ⟨t, _, hk, rfl⟩
  have hlast : s.history.closed.getLast? = some n →
      s.snapshot.last = some (.ended k.outcome) := by
    intro hn
    obtain ⟨past, u, x, later, hh, hx, hlater⟩ := History.of_getLast?_closed hn
    obtain ⟨past', later', hh'⟩ := List.append_of_mem hk
    obtain ⟨-, hxk⟩ := hs.closed_once hh hh' hx rfl
    cases hxk
    rw [hs.last, hh, History.getLast?_outcomes rfl fun u y hy =>
      Happening.outcome?_of_closed? (hlater u y hy)]
    rfl
  refine ⟨?_, hs.isSettled_iff.mpr ⟨t, k, hk⟩, ?_, hlast, fun hn subscribers => ?_⟩
  · rw [Tracker.settled?, hf]; rfl
  · rw [Tracker.status, hf]; rfl
  · rw [Http.Health.isDegraded, hlast hn]
    cases k.outcome <;> simp [Status.isFailed]

/-- An abandoned restart failed for whoever waits, and is pending to everybody else. -/
theorem Reachable.views_of_abandoned (hs : Reachable script s)
    (ha : (t, .abandoned n) ∈ s.history) :
    s.tracker.settled? n = some (.failed "restart abandoned") ∧
      s.tracker.isSettled n = false ∧ s.tracker.status n = .pending := by
  have hf : s.tracker.fate? n = some .abandoned :=
    (hs.fated n .abandoned nofun).mpr ⟨t, _, ha, rfl⟩
  have hst : s.tracker.status n = .pending := by rw [Tracker.status, hf]; rfl
  refine ⟨by rw [Tracker.settled?, hf]; rfl, ?_, hst⟩
  rw [Tracker.isSettled, hst]
  rfl

/-- **The views of a restart that has come to its end agree if and only if it was not abandoned.**
Waiting for it gives something in either case, and the report and `/health` tell the last outcome
that any restart ended with. -/
theorem views_agree_iff (hs : Reachable script s) (hn : n ∈ s.history.closed) :
    (∃ o, s.tracker.settled? n = some o ∧
      (s.ViewsAgree n o ↔ ∀ t, (t, .abandoned n) ∉ s.history)) ∧
    (∀ t, (t, .abandoned n) ∈ s.history →
      s.tracker.settled? n = some (.failed "restart abandoned") ∧
        s.tracker.isSettled n = false ∧ s.tracker.status n = .pending) ∧
    s.snapshot.last = s.history.outcomes.getLast?.map .ended := by
  refine ⟨?_, fun t ha => hs.views_of_abandoned ha, hs.last⟩
  obtain ⟨⟨t, x⟩, hx, hxn⟩ := List.mem_filterMap.mp hn
  cases x <;> cases hxn
  case ended k =>
    have hv := hs.viewsAgree_of_ended hx
    exact ⟨_, hv.settled, fun _ _ => hs.not_abandoned_of_ended hx, fun _ => hv⟩
  case abandoned =>
    obtain ⟨hset, hns, -⟩ := hs.views_of_abandoned hx
    refine ⟨_, hset, fun hv => ?_, fun h => absurd hx (h t)⟩
    rw [hv.isSettled] at hns
    cases hns

/-- A restart succeeds after an abandoned one, and everything tells so. -/
theorem views_agree_after_panic : ∃ s, Reachable ⟨[⟨100, .panic⟩], []⟩ s ∧
    s.history.closed = [1, 2] ∧ s.ViewsAgree 2 .succeeded := by
  obtain ⟨s, hf, hc, hset, hab⟩ : ∃ s,
      State.new.follow? ⟨[⟨100, .panic⟩], []⟩ anyAction
        [.request, .claim 1, .turn, .request, .pass 100, .turn, .claim 2, .turn, .pass 500,
          .turn] = some s ∧
      s.history.closed = [1, 2] ∧ s.tracker.settled? 2 = some .succeeded ∧
      s.history.all (·.2 != .abandoned 2) = true := ⟨_, rfl, rfl, rfl, rfl⟩
  have hs := (run_follow? hf).reachable .new
  obtain ⟨⟨o, ho, hv⟩, -, -⟩ := views_agree_iff hs (n := 2) (by rw [hc]; simp)
  cases hset.symm.trans ho
  refine ⟨s, hs, hc, hv.mpr fun t ht => ?_⟩
  have := List.all_eq_true.mp hab _ ht
  simp at this

/-- The first call for a worker panics: a waiter learns that the restart failed, but the ticket is
pending and nothing is reported. -/
theorem abandoned_views_disagree : ¬∀ (script : Script) (s : State) (n : Nat),
    Reachable script s → n ∈ s.history.closed → ∃ o, s.ViewsAgree n o := by
  intro hall
  obtain ⟨s, hf, hc, hp⟩ : ∃ s,
      State.new.follow? ⟨[⟨100, .panic⟩], []⟩ anyAction
        [.request, .claim 1, .turn, .pass 100, .turn] = some s ∧
      s.history.closed = [1] ∧ s.tracker.isSettled 1 = false := ⟨_, rfl, rfl, rfl⟩
  obtain ⟨o, hv⟩ := hall _ s 1 ((run_follow? hf).reachable .new) (by rw [hc]; simp)
  rw [hv.isSettled] at hp
  cases hp

end

end DevServer.Restart
