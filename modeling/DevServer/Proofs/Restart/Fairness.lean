import DevServer.Proofs.Restart.Steps

/-!
# Every restart comes to its end

`FairRun script r a` is an endless run in which nobody who could claim the slot, or go on with it,
is passed over for ever, and the clock does not stand still. A restart that has been created has not
claimed the slot yet, is in the line, or has come to its end (`Reachable.whereabouts`); `ahead` is
the work left in the line up to its claim. Only the owner of the slot gets the work done, it can go
on when its call is due, and then there is less (`FairRun.advances`). So every restart that is
created comes to its end (`FairRun.closes`).
-/

namespace DevServer.Restart

/-! ## Where a restart is -/

theorem Claim.owner_of_entering? {x : Claim} {n : Nat} (h : x.entering? = some n) :
    x.owner = .restart n := by
  cases x with
  | enters owner => cases owner <;> cases h; rfl
  | stops | starts => cases h

theorem Claim.owner_of_running? {x : Claim} {n : Nat} (h : x.running? = some n) :
    x.owner = .restart n := by
  cases x with
  | enters owner => cases h
  | stops owner => cases owner <;> cases h; rfl
  | starts => cases h; rfl

/-- The restart has a claim in the line. -/
def InLine (n : Nat) (l : List Claim) : Prop := ∃ x ∈ l, x.owner = .restart n

section
variable {script : Script} {s : State} {n : Nat}

/-- A restart that has begun is in the line or has ended. -/
theorem Reachable.closed_or_inLine (hs : Reachable script s) (hpos : 0 < n)
    (hst : n ≤ s.tracker.started) : n ∈ s.history.closed ∨ InLine n s.line := by
  have hclosed : s.history.closed = upTo (s.tracker.started - s.shared.running.length) :=
    hs.ordered.tally.closed
  rw [hclosed, mem_upTo]
  rcases hs.ordered.queue.running with hrun | ⟨hrun, -⟩
  · rw [hrun]
    exact .inl ⟨hpos, hst⟩
  · by_cases heq : n = s.tracker.started
    · have hm : n ∈ s.shared.running := by rw [hrun, heq]; exact List.mem_singleton.mpr rfl
      obtain ⟨x, hx, hxn⟩ := List.mem_filterMap.mp hm
      exact .inr ⟨x, hx, Claim.owner_of_running? hxn⟩
    · rw [hrun, List.length_singleton]
      left; omega

/-- A restart that has not begun waits to claim the slot, or is in the line. -/
theorem Reachable.unclaimed_or_inLine (hs : Reachable script s) (hst : s.tracker.started < n)
    (hle : n ≤ s.tracker.created) : n ∈ s.unclaimed ∨ InLine n s.line := by
  have hq : s.tracker.queued = some n := by
    rcases hs.ordered.queue.queued with ⟨-, hc⟩ | ⟨hq, hc⟩
    · have hc : s.tracker.created = s.tracker.started := hc
      omega
    · have hc : s.tracker.created = s.tracker.started + 1 := hc
      obtain rfl : n = s.tracker.started + 1 := by omega
      exact hq
  have hwait := hs.ordered.queue.waiting
  rw [show s.shared.tracker.queued = some n from hq] at hwait
  have hw : n ∈ s.unclaimed ++ s.line.filterMap Claim.entering? := by
    show n ∈ s.shared.waiting
    rw [hwait]; exact List.mem_singleton.mpr rfl
  refine (List.mem_append.mp hw).imp_right fun hw => ?_
  obtain ⟨x, hx, hxn⟩ := List.mem_filterMap.mp hw
  exact ⟨x, hx, Claim.owner_of_entering? hxn⟩

/-- A restart that has been created waits to claim the slot, is in the line, or has ended. -/
theorem Reachable.whereabouts (hs : Reachable script s) (hn : n ∈ s.history.created) :
    n ∈ s.history.closed ∨ n ∈ s.unclaimed ∨ InLine n s.line := by
  obtain ⟨hpos, hle⟩ := hs.mem_created.mp hn
  rcases Nat.lt_or_ge s.tracker.started n with hst | hst
  · exact .inr (hs.unclaimed_or_inLine hst hle)
  · exact (hs.closed_or_inLine hpos hst).imp_right .inr

end

/-! ## The work before it -/

/-- How much work is left in a line up to the claim of the restart `n`. -/
def ahead (n : Nat) : List Claim → Nat
  | [] => 0
  | x :: l => x.work + if x.owner = .restart n then 0 else ahead n l

theorem Claim.work_pos (x : Claim) : 0 < x.work := by cases x <;> simp [work]

section
variable {n : Nat} {l k : List Claim}

theorem inLine_cons {x : Claim} : InLine n (x :: l) ↔ x.owner = .restart n ∨ InLine n l := by
  simp [InLine]

theorem InLine.append (h : InLine n l) : InLine n (l ++ k) := by
  obtain ⟨x, hx, hxn⟩ := h
  exact ⟨x, List.mem_append_left _ hx, hxn⟩

/-- Whoever comes later makes no difference. -/
theorem ahead_append (h : InLine n l) : ahead n (l ++ k) = ahead n l := by
  induction l with
  | nil => obtain ⟨x, hx, -⟩ := h; cases hx
  | cons x l ih =>
    rw [List.cons_append, ahead, ahead]
    split
    · rfl
    · next hx => rw [ih ((inLine_cons.mp h).resolve_left hx)]

theorem InLine.giveUp (h : InLine n l) (task : Nat) :
    InLine n (l.filter (·.owner != Owner.shutdown task)) := by
  obtain ⟨x, hx, hxn⟩ := h
  exact ⟨x, List.mem_filter.mpr ⟨hx, by rw [hxn]; rfl⟩, hxn⟩

/-- A shutdown that is given up leaves less to do. -/
theorem ahead_giveUp (n task : Nat) (l : List Claim) :
    ahead n (l.filter (·.owner != Owner.shutdown task)) ≤ ahead n l := by
  induction l with
  | nil => exact Nat.le_refl _
  | cons x l ih =>
    rw [List.filter_cons]
    split
    · rw [ahead, ahead]
      split
      · exact Nat.le_refl _
      · exact Nat.add_le_add_left ih _
    · next hx =>
      have hxn : x.owner ≠ .restart n := fun h => hx (by rw [h]; rfl)
      rw [ahead, if_neg hxn]
      exact Nat.le_trans ih (Nat.le_add_left _ _)

end

section
variable {script : Script} {s s' : State} {n : Nat} {x : Claim} {rest : List Claim}

/-- A restart in the line stays there while the owner of the slot does nothing. There is no more
work before it than there was, and less if the head of the line goes. -/
theorem inLine_step {a : Action} (h : step script s a = some s') (ha : a ≠ .turn)
    (hl : s.line = x :: rest) (hn : InLine n s.line) :
    InLine n s'.line ∧
      (ahead n s'.line < ahead n s.line ∨
        ahead n s'.line ≤ ahead n s.line ∧ ∃ rest', s'.line = x :: rest') := by
  rcases line_step h ha with hl' | ⟨owner, hl', -⟩ | ⟨task, hl'⟩
  · rw [hl']
    exact ⟨hn, .inr ⟨Nat.le_refl _, rest, hl⟩⟩
  · rw [hl']
    refine ⟨hn.append, .inr ⟨Nat.le_of_eq (ahead_append hn), rest ++ [.enters owner], ?_⟩⟩
    rw [hl]; rfl
  · rw [hl']
    refine ⟨hn.giveUp task, ?_⟩
    by_cases hx : x.owner = .shutdown task
    · left
      have hle := ahead_giveUp n task rest
      have hpos := x.work_pos
      rw [hl, List.filter_cons_of_neg (by simp [hx]), ahead, if_neg (by rw [hx]; nofun)]
      omega
    · refine .inr ⟨ahead_giveUp n task s.line, rest.filter (·.owner != Owner.shutdown task), ?_⟩
      rw [hl, List.filter_cons_of_pos (by simpa using hx)]

/-- A turn of the owner of the slot leaves less work before a restart in the line, or ends it. -/
theorem inLine_turn (h : s.turn script = some s') (hn : InLine n s.line) :
    n ∈ s'.history.closed ∨ InLine n s'.line ∧ ahead n s'.line < ahead n s.line := by
  obtain ⟨hs, ht⟩ := turned h
  obtain ⟨x, rest, hl, ⟨hl', hend⟩ | ⟨y, hy, hwork, hl'⟩⟩ := ht.line
  · by_cases hx : x.owner = .restart n
    · obtain ⟨y, hy, hyn⟩ := hend n hx
      refine .inl (List.mem_filterMap.mpr ⟨(s.now, y), ?_, hyn⟩)
      rw [ht.history]
      exact List.mem_append_right _ (History.mem_stamp.mpr ⟨rfl, hy⟩)
    · rw [hl] at hn
      have hpos := x.work_pos
      refine .inr ⟨hl' ▸ (inLine_cons.mp hn).resolve_left hx, ?_⟩
      rw [hl, hl', ahead, if_neg hx]
      omega
  · refine .inr ⟨?_, ?_⟩
    · rw [hl']
      rw [hl] at hn
      exact inLine_cons.mpr (by rw [hy]; exact inLine_cons.mp hn)
    · rw [hl, hl', ahead, ahead, hy]
      omega

end

/-! ## Fair runs -/

/-- The actions by which restarts and shutdowns get on with the slot. -/
def Action.atSlot : Action → Bool
  | claim _ | turn => true
  | request | spawn _ | send _ | close | cancel _ | mark | unmark | killWorker | pass _ | poll _ =>
    false

/-- An endless run. Whoever can claim the slot, or go on with it, does so at some time if he can for
ever, and the clock does not stand still. -/
structure FairRun (script : Script) (r : Nat → State) (a : Nat → Action) : Prop where
  reachable : Reachable script (r 0)
  step : ∀ i, Restart.step script (r i) (a i) = some (r (i + 1))
  fair : ∀ b, b.atSlot = true → ∀ i, ∃ j, i ≤ j ∧
    (a j = b ∨ Restart.step script (r j) b = none)
  clock : ∀ t, ∃ i, t ≤ (r i).now

namespace FairRun

variable {script : Script} {r : Nat → State} {a : Nat → Action} {i j n : Nat}

theorem run (hf : FairRun script r a) (h : i ≤ j) : Run script anyAction (r i) (r j) := by
  induction h with
  | refl => exact .refl
  | step _ ih => exact ih.next rfl (hf.step _)

theorem reachable_at (hf : FairRun script r a) (i : Nat) : Reachable script (r i) :=
  (hf.run (Nat.zero_le i)).reachable hf.reachable

theorem history (hf : FairRun script r a) (h : i ≤ j) : (r i).history <+: (r j).history := by
  obtain ⟨k, -, hk⟩ := (hf.run h).evolves
  exact ⟨k, hk.symm⟩

theorem now (hf : FairRun script r a) (h : i ≤ j) : (r i).now ≤ (r j).now := by
  obtain ⟨k, hm, -⟩ := (hf.run h).evolves
  exact (hm.timely ⟨.nil, nofun⟩).1

theorem created (hf : FairRun script r a) (h : i ≤ j) (hn : n ∈ (r i).history.created) :
    n ∈ (r j).history.created := by
  obtain ⟨k, hk⟩ := hf.history h
  rw [← hk, History.created_append]
  exact List.mem_append_left _ hn

/-- The restart `n` has ended at `j`, or there is less work before it than at `i`. -/
def Advanced (r : Nat → State) (n i j : Nat) : Prop :=
  n ∈ (r j).history.closed ∨ InLine n (r j).line ∧ ahead n (r j).line < ahead n (r i).line

/-- The head of the line stays until the restart has advanced. -/
theorem keeps_head (hf : FairRun script r a) {x : Claim} {rest : List Claim}
    (hl : (r i).line = x :: rest) (hn : InLine n (r i).line) (h : i ≤ j) :
    (∃ k, i ≤ k ∧ Advanced r n i k) ∨
      InLine n (r j).line ∧ ahead n (r j).line ≤ ahead n (r i).line ∧
        ∃ rest', (r j).line = x :: rest' := by
  induction h with
  | refl => exact .inr ⟨hn, Nat.le_refl _, rest, hl⟩
  | @step j hij ih =>
    rcases ih with hadv | ⟨hn', hle, rest', hl'⟩
    · exact .inl hadv
    · have hstep := hf.step j
      by_cases ha : a j = .turn
      · rw [ha] at hstep
        left
        refine ⟨j + 1, Nat.le_succ_of_le hij, ?_⟩
        exact (inLine_turn hstep hn').imp_right fun ⟨h1, h2⟩ => ⟨h1, Nat.lt_of_lt_of_le h2 hle⟩
      · obtain ⟨hn'', hlt | ⟨hle', hl''⟩⟩ := inLine_step hstep ha hl' hn'
        · exact .inl ⟨j + 1, Nat.le_succ_of_le hij, .inr ⟨hn'', Nat.lt_of_lt_of_le hlt hle⟩⟩
        · exact .inr ⟨hn'', Nat.le_trans hle' hle, hl''⟩

/-- **A restart in the line advances**: its head goes on when its call is due, at the latest. -/
theorem advances (hf : FairRun script r a) (hn : InLine n (r i).line) :
    ∃ j, i ≤ j ∧ Advanced r n i j := by
  obtain ⟨x, rest, hl⟩ : ∃ x rest, (r i).line = x :: rest := by
    obtain ⟨x, hx, -⟩ := hn
    exact List.exists_cons_of_ne_nil (List.ne_nil_of_mem hx)
  obtain ⟨t, ht⟩ := hf.clock x.due
  obtain ⟨j, hj, hturn⟩ := hf.fair .turn rfl (max i t)
  have hij : i ≤ j := Nat.le_trans (Nat.le_max_left i t) hj
  rcases hf.keeps_head hl hn hij with hadv | ⟨hn', hle, rest', hl'⟩
  · exact hadv
  · have hdue : x.due ≤ (r j).now :=
      Nat.le_trans ht (hf.now (Nat.le_trans (Nat.le_max_right i t) hj))
    have hstep := hf.step j
    rw [hturn.resolve_right (turn_ne_none hl' hdue)] at hstep
    refine ⟨j + 1, Nat.le_succ_of_le hij, ?_⟩
    exact (inLine_turn hstep hn').imp_right fun ⟨h1, h2⟩ => ⟨h1, Nat.lt_of_lt_of_le h2 hle⟩

theorem closes_of_inLine (hf : FairRun script r a) (hn : InLine n (r i).line) :
    ∃ j, i ≤ j ∧ n ∈ (r j).history.closed := by
  induction hw : ahead n (r i).line using Nat.strongRecOn generalizing i with
  | ind w ih =>
    obtain ⟨j, hij, hc | ⟨hn', hlt⟩⟩ := hf.advances hn
    · exact ⟨j, hij, hc⟩
    · obtain ⟨k, hjk, hc⟩ := ih _ (hw ▸ hlt) hn' rfl
      exact ⟨k, Nat.le_trans hij hjk, hc⟩

/-- A restart that waits to claim the slot claims it. -/
theorem claims (hf : FairRun script r a) (i n : Nat) : ∃ j, i ≤ j ∧ n ∉ (r j).unclaimed := by
  obtain ⟨j, hj, ha | hnone⟩ := hf.fair (.claim n) rfl i
  · have hstep := hf.step j
    rw [ha] at hstep
    simp only [Restart.step, State.claim] at hstep
    split at hstep
    · refine ⟨j + 1, Nat.le_succ_of_le hj, ?_⟩
      rw [← Option.some.inj hstep]
      simp
    · cases hstep
  · refine ⟨j, hj, fun hn => ?_⟩
    simp [Restart.step, State.claim, hn] at hnone

/-- **Every restart that is created comes to its end.** -/
theorem closes (hf : FairRun script r a) (hn : n ∈ (r i).history.created) :
    ∃ j, i ≤ j ∧ n ∈ (r j).history.closed := by
  obtain ⟨j, hij, hu⟩ := hf.claims i n
  rcases (hf.reachable_at j).whereabouts (hf.created hij hn) with hc | hu' | hl
  · exact ⟨j, hij, hc⟩
  · exact absurd hu' hu
  · obtain ⟨k, hjk, hc⟩ := hf.closes_of_inLine hl
    exact ⟨k, Nat.le_trans hij hjk, hc⟩

/-! ### Fair runs that come to rest -/

/-- `x` and then `f`. -/
def first {α : Type} (x : α) (f : Nat → α) : Nat → α
  | 0 => x
  | i + 1 => f i

/-- Nothing goes on but the clock while nobody claims the slot. -/
theorem idle {s : State} (hs : Reachable script s) (hl : s.line = []) (hu : s.unclaimed = []) :
    FairRun script (fun i => { s with now := s.now + i }) fun _ => .pass 1 where
  reachable := hs
  step := fun _ => rfl
  fair := fun b hb i => by
    refine ⟨i, Nat.le_refl i, .inr ?_⟩
    cases b with
    | claim n => simp [Restart.step, State.claim, hu]
    | turn => simp [Restart.step, State.turn, hl]
    | _ => cases hb
  clock := fun t => ⟨t, Nat.le_add_left t s.now⟩

theorem cons {s : State} {b : Action} (hf : FairRun script r a) (hs : Reachable script s)
    (h : Restart.step script s b = some (r 0)) : FairRun script (first s r) (first b a) where
  reachable := hs
  step := fun i => by
    cases i with
    | zero => exact h
    | succ i => exact hf.step i
  fair := fun c hc i => by
    obtain ⟨j, hj, h⟩ := hf.fair c hc (i - 1)
    exact ⟨j + 1, by omega, h⟩
  clock := fun t => by
    obtain ⟨i, hi⟩ := hf.clock t
    exact ⟨i + 1, hi⟩

/-- Actions that leave nobody waiting for the slot are the beginning of a fair run in which nothing
more happens. -/
theorem of_follow? {as : List Action} {s s' : State} (hs : Reachable script s)
    (hfollow : s.follow? script anyAction as = some s') (hl : s'.line = [])
    (hu : s'.unclaimed = []) :
    ∃ r a, FairRun script r a ∧ r 0 = s ∧ (∀ b ∈ as.head?, a 0 = b) ∧
      ∀ i, (r i).history <+: s'.history := by
  induction as generalizing s with
  | nil =>
    cases hfollow
    exact ⟨_, _, idle hs hl hu, rfl, nofun, fun _ => List.prefix_refl _⟩
  | cons b as ih =>
    simp only [State.follow?, anyAction, ↓reduceIte] at hfollow
    obtain ⟨s₁, h, hfollow⟩ := Option.bind_eq_some_iff.mp hfollow
    obtain ⟨r, a, hf, rfl, -, hh⟩ := ih (hs.step h) hfollow
    refine ⟨_, _, hf.cons hs h, rfl, ?_, fun i => ?_⟩
    · rintro c ⟨⟩; rfl
    · cases i with
      | zero =>
        obtain ⟨k, -, hk⟩ := evolves_step h
        exact List.IsPrefix.trans ⟨k, hk.symm⟩ (hh 0)
      | succ i => exact hh i

end FairRun

end DevServer.Restart
