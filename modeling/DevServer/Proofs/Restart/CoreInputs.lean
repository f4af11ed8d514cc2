import DevServer.Proofs.Restart.Clock

/-!
# The core and the outside

What comes from outside does the same to the core of a state as to the state: tasks and events for
server builds, the end of a channel, cancellations (`core_spawn`, `core_send`, `core_close`,
`core_cancel`). It is nothing to the core when it is a task or an event for a client build, or the
cancellation of a task that only waits (`core_spawn_client`, `core_send_client`,
`core_cancel_same`).
-/

namespace DevServer.Restart

section
variable {script : Script} {s s' : State} {i : Nat} {t : Task} {er : Errand}

/-! ## Cancellations -/

theorem Claim.owner_renumber (f : Nat → Nat) (x : Claim) :
    (x.renumber f).owner = x.owner.renumber f := by
  cases x <;> rfl

/-- Who does not shut the coordinator down has no claim on the slot to give up. -/
theorem line_filter (hs : s.Claimed) (ht : s.tasks[i]? = some t) (hne : t.errand ≠ .shutdown) :
    s.line.filter (·.owner != Owner.shutdown i) = s.line := by
  refine List.filter_eq_self.mpr fun x hx => ?_
  simp only [bne_iff_ne, ne_eq]
  intro ho
  obtain ⟨u, hu, he⟩ := hs x hx i ho
  rw [ht] at hu
  cases hu
  exact hne he

/-- A claim that is given up is given up in the core. -/
theorem line_filter_core (hs : s.Claimed) (ht : s.tasks[i]? = some t)
    (hc : t.errand.forClient = false) :
    (s.line.filter (·.owner != Owner.shutdown i)).map (·.renumber s.rank) =
      s.core.line.filter (·.owner != Owner.shutdown (s.rank i)) := by
  show _ = (s.line.map (·.renumber s.rank)).filter _
  rw [List.filter_map]
  congr 1
  refine List.filter_congr fun x hx => ?_
  rw [Function.comp_apply, Claim.owner_renumber, Bool.eq_iff_iff, bne_iff_ne, bne_iff_ne]
  refine not_congr ⟨fun h => by rw [h]; rfl, fun h => ?_⟩
  cases ho : x.owner with
  | restart => rw [ho] at h; cases h
  | shutdown j =>
    rw [ho] at h
    obtain ⟨u, hu, he⟩ := hs x hx j ho
    exact congrArg _ (rank_inj hu (he ▸ rfl) ht hc (Owner.shutdown.inj h))

theorem cancel_eq (ht : s.tasks[i]? = some t) : s.cancel i = if t.stage.isOver then s else
    { s with line := s.line.filter (·.owner != Owner.shutdown i) }.setStage i .cancelled := by
  have hg : s.stage? i = some t.stage := by rw [State.stage?, ht]; rfl
  simp only [State.cancel, hg]

/-- Who only waits is not in the core any more once it has started. -/
theorem Errand.Fits.core_eq {g : Stage} (hf : er.Fits g) (hw : er.onlyWaits = true)
    (hg : g ≠ .fresh) : g.core = .cancelled := by
  cases g with
  | fresh => exact absurd rfl hg
  | waiting | settling | ended | cancelled => rfl
  | receiving =>
    obtain ⟨ms, rfl⟩ := hf
    cases hw
  | claiming =>
    rw [show er = .shutdown from hf] at hw
    cases hw

/-- Nobody misses a client build, or a task that only waits. -/
theorem core_cancel_same (hs : s.Sound) (ht : s.tasks[i]? = some t)
    (h : t.errand.forClient = true ∨ t.errand.onlyWaits = true ∧ t.stage ≠ .fresh) :
    (s.cancel i).core = s.core := by
  have hne : t.errand ≠ .shutdown := by
    intro he
    rw [he] at h
    rcases h with h | ⟨h, -⟩ <;> cases h
  rw [cancel_eq ht, line_filter hs.claimed ht hne]
  split
  · rfl
  · refine core_setStage_same (s := s) ht (h.imp_right fun ⟨hw, hg⟩ => ?_)
    exact ((hs.fit t (List.mem_of_getElem? ht)).core_eq hw hg).symm

theorem core_cancel (hs : s.Sound) (ht : s.tasks[i]? = some t) (hc : t.errand.forClient = false) :
    (s.cancel i).core = s.core.cancel (s.rank i) := by
  have hf := hs.fit t (List.mem_of_getElem? ht)
  have htc := tasks_core ht hc
  by_cases hw : t.errand.onlyWaits = true ∧ t.stage ≠ .fresh
  · rw [core_cancel_same hs ht (.inr hw), cancel_eq htc, hf.core_eq hw.1 hw.2]
    rfl
  · have hover : t.stage.core.isOver = t.stage.isOver := by
      cases hg : t.stage with
      | fresh | receiving | claiming | ended | cancelled => rfl
      | waiting =>
        rw [hg] at hf hw
        exact absurd ⟨hf, nofun⟩ hw
      | settling =>
        rw [hg] at hf hw
        exact absurd ⟨Errand.onlyWaits_of_forClient hf, nofun⟩ hw
    obtain ⟨r, hr⟩ : ∃ r : State,
        r = { s with line := s.line.filter (·.owner != Owner.shutdown i) } := ⟨_, rfl⟩
    have htr : r.tasks[i]? = some t := hr ▸ ht
    have hrr : r.rank = s.rank := hr ▸ rfl
    have hcr : r.core = { s.core with
        line := s.core.line.filter (·.owner != Owner.shutdown (s.rank i)) } := by
      rw [hr, ← line_filter_core hs.claimed ht hc]
      rfl
    rw [cancel_eq ht, cancel_eq htc, ← hr]
    show _ = if t.stage.core.isOver then _ else _
    rw [hover]
    split
    · rfl
    · rw [core_setStage htr hc, hcr, hrr]
      rfl

/-! ## The channel -/

theorem stage?_inbox (hi : s.inbox = some i) (ht : s.tasks[i]? = some t) :
    s.inbox.bind s.stage? = some t.stage := by
  rw [hi]
  exact congrArg (Option.map Task.stage) ht

theorem send_eq (hi : s.inbox = some i) (ht : s.tasks[i]? = some t) (e : Build.Event) :
    s.send e = match t.stage with
      | .receiving es true => s.setStage i (.receiving (es ++ [e]) true)
      | _ => s := by
  rw [State.send, stage?_inbox hi ht, hi]
  rcases t.stage with _ | _ | _ | ⟨es, _ | _⟩ | _ | _ | _ <;> rfl

theorem core_send (hs : s.Sound) {e : Build.Event} (he : e.target = .server) :
    (s.send e).core = s.core.send e := by
  rcases hi : s.inbox with _ | i
  · have hc : s.core.inbox = none := congrArg (Option.map s.rank) hi
    rw [State.send, State.send, hi, hc]
  · obtain ⟨t, ms, ht, hr⟩ := hs.inbox i hi
    have hn : t.errand.forClient = false := hr ▸ rfl
    rw [send_eq hi ht, send_eq (congrArg (Option.map s.rank) hi) (tasks_core ht hn)]
    rcases t.stage with _ | _ | _ | ⟨es, _ | _⟩ | _ | _ | _ <;> try rfl
    show (s.setStage i _).core = s.core.setStage (s.rank i) _
    rw [core_setStage ht hn]
    simp [Stage.core, he]

theorem core_send_client (hs : s.Sound) {e : Build.Event} (he : e.target = .client) :
    (s.send e).core = s.core := by
  rcases hi : s.inbox with _ | i
  · rw [State.send, hi]
  · obtain ⟨t, ms, ht, hr⟩ := hs.inbox i hi
    rw [send_eq hi ht]
    split
    · next es hg => exact core_setStage_same ht (.inr (by rw [hg]; simp [Stage.core, he]))
    · rfl

theorem close_eq (hi : s.inbox = some i) (ht : s.tasks[i]? = some t) :
    s.close = match t.stage with
      | .receiving es true => { s.setStage i (.receiving es false) with inbox := none }
      | _ => { s with inbox := none } := by
  rw [State.close, stage?_inbox hi ht, hi]
  rcases t.stage with _ | _ | _ | ⟨es, _ | _⟩ | _ | _ | _ <;> rfl

theorem core_close (hs : s.Sound) : s.close.core = s.core.close := by
  have hnone (r : State) : State.core { r with inbox := none } = { r.core with inbox := none } :=
    rfl
  rcases hi : s.inbox with _ | i
  · have hc : s.core.inbox = none := congrArg (Option.map s.rank) hi
    rw [State.close, State.close, hi, hc]
    exact hnone s
  · obtain ⟨t, ms, ht, hr⟩ := hs.inbox i hi
    have hn : t.errand.forClient = false := hr ▸ rfl
    rw [close_eq hi ht, close_eq (congrArg (Option.map s.rank) hi) (tasks_core ht hn)]
    rcases t.stage with _ | _ | _ | ⟨es, _ | _⟩ | _ | _ | _ <;> try rfl
    show State.core { s.setStage i _ with inbox := none } =
      { s.core.setStage (s.rank i) _ with inbox := none }
    rw [hnone, core_setStage ht hn]
    rfl

/-! ## Tasks -/

theorem core_spawn_client (hs : s.Sound) (hc : er.forClient = true) :
    (s.spawn er).core = s.core := by
  have happ := core_append hs ⟨er, .fresh, some s.numbered⟩
  rw [Task.core?_of_client hc] at happ
  cases er with
  | releaseClient | handle => exact happ.trans (by simp)
  | restartWorker | receive | shutdown => cases hc

/-- A new loop takes over the channel. -/
theorem core_spawn_receive (hs : s.Sound) (ms : Nat) :
    (s.spawn (.receive ms)).core = { s.core.close with
      tasks := s.core.close.tasks ++ [⟨.receive ms, .receiving [] true, none⟩]
      inbox := some s.core.tasks.length } := by
  have hclose : step ⟨[], []⟩ s .close = some s.close := rfl
  have hcs : s.close.Sound := hs.step hclose
  obtain ⟨k, hk⟩ : ∃ k : Task, k = ⟨.receive ms, .receiving [] true, some s.numbered⟩ := ⟨_, rfl⟩
  have happ := core_append hcs k
  have hrank : rank (s.close.tasks ++ [k]) s.tasks.length = s.core.tasks.length := by
    have hlen : s.tasks.length = s.close.tasks.length := (length_close s).symm
    rw [rank_append (Nat.le_of_eq hlen), hlen, rank_length]
    show s.close.core.tasks.length = _
    rw [core_close hs, length_close]
  have hu : k.core? = some ⟨.receive ms, .receiving [] true, none⟩ := by rw [hk]; rfl
  rw [hu, core_close hs] at happ
  have hspawn : (s.spawn (.receive ms)).core =
      { State.core { s.close with tasks := s.close.tasks ++ [k] } with
        inbox := some (rank (s.close.tasks ++ [k]) s.tasks.length) } := by
    rw [hk]
    rfl
  rw [hspawn, happ, hrank]
  rfl

theorem core_spawn (hs : s.Sound) (hc : er.forClient = false) :
    (s.spawn er).core = (s.core.spawn er).core := by
  have hu (n : Nat) : Task.core? ⟨er, .fresh, some n⟩ = some ⟨er, .fresh, none⟩ :=
    Task.core?_of_not_client hc
  have hs₁ := core_append hs ⟨er, .fresh, some s.numbered⟩
  have hs₂ := core_append hs.core ⟨er, .fresh, some s.core.numbered⟩
  rw [hu] at hs₁ hs₂
  rw [core_core] at hs₂
  cases er with
  | receive ms => rw [core_spawn_receive hs, core_spawn_receive hs.core, core_core]
  | restartWorker | releaseClient | handle | shutdown => exact hs₁.trans hs₂.symm

end

end DevServer.Restart
