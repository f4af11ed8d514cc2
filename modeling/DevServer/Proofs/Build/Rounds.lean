import DevServer.Proofs.Build.Moves
import DevServer.Proofs.Change.Batch
import Mathlib

/-!
# Rounds of a pipeline

A pipeline numbers its builds and loses no change. Each event that it sends is the event of the build
that its place in the sequence says, every round of changes that was recorded between two batches is
what the second of them was made of, and what is left is pending or in the watcher's queue
(`builds_numbered_changes_kept`). The invariant is `Kept`.
-/

namespace DevServer.Build

namespace Pipeline

/-- What the account of a run says of the pipeline. -/
structure Kept (window : Nat) (p : Pipeline) (a : Account) : Prop where
  reported : a.reported = a.recorded ++ p.queue
  gathered : p.debouncer.Gathered window a.since
  rounds : ∀ r ∈ a.rounds, ∃ (d d' : Debouncer) (now : Nat),
    d.Gathered window r.1 ∧ d.take? now = some (r.2, d')
  builds : a.batches.length = p.builds
  sent : ∀ i e, p.sent[i]? = some e → ∃ batch o,
    a.batches[i]? = some batch ∧ e = p.event (i + 1) batch o
  building : ∀ build changes, p.activity = .building build changes →
    build = p.builds ∧ a.batches.getLast? = some changes ∧
      (p.listening = true → p.sent.length + 1 = p.builds)
  idle : p.listening = true → (∀ build changes, p.activity ≠ .building build changes) →
    p.sent.length = p.builds
  stopped : p.listening = true → p.activity = .stopped → p.shuttingDown = true

namespace Kept

variable {window : Nat} {p p' : Pipeline} {a a' : Account} {now : Nat} {m : Move}

theorem new (target : Target) (window : Nat) : Kept window (.new target window) .empty where
  reported := rfl
  gathered := .new
  rounds _ hr := by cases hr
  builds := rfl
  sent _ _ he := by cases he
  building build changes h := by
    cases h
    exact ⟨rfl, rfl, fun _ => rfl⟩
  idle _ h := absurd rfl (h 1 [])
  stopped _ h := by cases h

/-- A pipeline that runs no build may go over to anything but one. -/
theorem idles {activity : Activity} (h : Kept window p a)
    (hw : ∀ build changes, p.activity ≠ .building build changes)
    (hn : ∀ build changes, activity ≠ .building build changes)
    (hs : p.listening = true → activity = .stopped → p.shuttingDown = true) :
    Kept window { p with activity } a :=
  { h with
    building := fun build changes hb => absurd hb (hn build changes)
    idle := fun hl _ => h.idle hl hw
    stopped := hs }

theorem record {e : FileEvent} {queue : List FileEvent} (h : Kept window p a)
    (hw : ∀ build changes, p.activity ≠ .building build changes) (hq : p.queue = e :: queue) :
    Kept window ({ p with queue, debouncer := p.debouncer.record now e }.rest now)
      (a.record e) where
  reported := by
    have hr : a.reported = a.recorded ++ e :: queue := by rw [h.reported, hq]
    rw [Account.recorded_record, List.append_assoc]
    exact hr
  gathered := h.gathered.record now e
  rounds := h.rounds
  builds := h.builds
  sent := h.sent
  building _ _ hb := by cases hb
  idle hl _ := h.idle hl hw
  stopped _ hst := by cases hst

/-- A batch is the round of what was recorded since the last one. -/
theorem begin {changes : List Change} {d : Debouncer} (h : Kept window p a)
    (hw : ∀ build changes, p.activity ≠ .building build changes)
    (hd : p.debouncer.take? now = some (changes, d)) :
    Kept window
      { p with
        debouncer := d
        activity := .building (p.builds + 1) changes
        builds := p.builds + 1 }
      (a.take changes) where
  reported := by rw [Account.recorded_take]; exact h.reported
  gathered := h.gathered.take hd
  rounds r hr := by
    rcases List.mem_append.mp hr with hr | hr
    · exact h.rounds r hr
    · rw [List.mem_singleton.mp hr]
      exact ⟨_, _, _, h.gathered, hd⟩
  builds := by rw [Account.batches_take, List.length_append, h.builds]; rfl
  sent i e he := by
    obtain ⟨batch, o, hb, rfl⟩ := h.sent i e he
    refine ⟨batch, o, ?_, rfl⟩
    rw [Account.batches_take, List.getElem?_append_left (List.getElem?_eq_some_iff.mp hb).1, hb]
  building _ _ hb := by
    cases hb
    refine ⟨rfl, by simp, fun hl => ?_⟩
    exact congrArg (· + 1) (h.idle hl hw)
  idle _ hn := absurd rfl (hn _ _)
  stopped _ hst := by cases hst

/-- The event of the build that ends is the next one. -/
theorem send {build : Nat} {changes : List Change} (h : Kept window p a) (o : Outcome)
    (hb : p.activity = .building build changes) (hl : p.listening = true) :
    Kept window ({ p with sent := p.sent ++ [p.event build changes o] }.rest now) a where
  reported := h.reported
  gathered := h.gathered
  rounds := h.rounds
  builds := h.builds
  sent i e he := by
    obtain ⟨hbuild, hlast, hlen⟩ := h.building build changes hb
    have hlen : p.sent.length + 1 = p.builds := hlen hl
    rcases Nat.lt_or_ge i p.sent.length with hi | hi
    · have he : (p.sent ++ [p.event build changes o])[i]? = some e := he
      rw [List.getElem?_append_left hi] at he
      exact h.sent i e he
    · obtain ⟨hi', he⟩ := List.getElem?_eq_some_iff.mp he
      have hi : i = p.sent.length := by
        have hle : i < (p.sent ++ [p.event build changes o]).length := hi'
        rw [List.length_append] at hle
        simp at hle
        omega
      subst hi
      refine ⟨changes, o, ?_, ?_⟩
      · rw [List.getLast?_eq_getElem?, h.builds, ← hlen] at hlast
        exact hlast
      · rw [hlen, ← hbuild, ← he]
        simp [rest, event]
  building _ _ hb := by cases hb
  idle _ _ := by
    have hlen : p.sent.length + 1 = p.builds := (h.building build changes hb).2.2 hl
    simpa [rest] using hlen
  stopped _ hst := by cases hst

/-- One move keeps the account. -/
theorem does (h : Kept window p a) (hd : Does p a now m p' a') : Kept window p' a' := by
  cases hd with
  | report e =>
    refine { h with reported := ?_ }
    rw [Account.recorded_report, Account.report, h.reported, List.append_assoc]
  | stop hw hs => exact h.idles (by simp [hw]) nofun fun _ _ => hs
  | record hw hs hq => exact h.record (by simp [hw]) hq
  | wait hw hs hq ht hd => exact h.idles (by simp [hw]) nofun nofun
  | begin hw hs hq ht hd => exact h.begin (by simp [hw]) hd
  | send o hb hl => exact h.send o hb hl
  | quit o hb hl =>
    have hno : ¬p.listening = true := by simp [hl]
    exact { h with
      building := fun _ _ hb => by cases hb
      idle := fun hl _ => absurd hl hno
      stopped := fun hl _ => absurd hl hno }
  | shutDown => exact { h with stopped := fun _ _ => rfl }
  | hangUp =>
    exact { h with
      building := fun b c hb => ⟨(h.building b c hb).1, (h.building b c hb).2.1, fun hl => by cases hl⟩
      idle := fun hl _ => by cases hl
      stopped := fun hl _ => by cases hl }

end Kept

theorem Ran.kept {target : Target} {window now : Nat} {p : Pipeline} {a : Account}
    (h : Ran target window now p a) : Kept window p a := by
  induction h with
  | new now => exact .new target window
  | move _ _ hm ih => exact ih.does hm

/-! ## Builds and changes -/

/-- What has become of the builds of a pipeline and of the changes reported to it. -/
structure Accounted (window : Nat) (p : Pipeline) (a : Account) : Prop where
  /-- Events are numbered from 1, without a gap. -/
  numbered : p.sent.map Event.build = List.range' 1 p.sent.length
  /-- The first build was begun with nothing, and each other one with the batch of a round. -/
  builds : p.builds = a.rounds.length + 1
  /-- A build has one event, which is sent when it ends. -/
  building : p.listening = true → ∀ build changes, p.activity = .building build changes →
    build = p.sent.length + 1 ∧ p.builds = p.sent.length + 1 ∧
      a.batches.getLast? = some changes
  ended : p.listening = true → (∀ build changes, p.activity ≠ .building build changes) →
    p.builds = p.sent.length
  first : ∀ e, p.sent[0]? = some e → e.changed = [] ∧ e.touchedServer = false
  /-- Every further event has the changes of its round, merged and in path order. -/
  later : ∀ i e, p.sent[i + 1]? = some e → ∃ es batch, a.rounds[i]? = some (es, batch) ∧
    Merged es batch ∧ e.changed = batch.map Change.path ∧
      (∃ read, e.touchedServer = touchesServer read batch) ∧
        e.changed ≠ [] ∧ Ascending e.changed
  /-- What was reported is in one round, or recorded since the last batch, or in the queue. -/
  reported : a.reported = a.rounds.flatMap Prod.fst ++ a.since ++ p.queue
  /-- The debouncer has recorded what came since the last batch, and holds just this. -/
  recorded : p.debouncer.Gathered window a.since
  pending : Merged a.since p.debouncer.pending
  /-- Only shutdown stops a pipeline with a listener, and all its batches are reported then. -/
  stopped : p.listening = true → p.isStopped = true →
    p.shuttingDown = true ∧ p.sent.length = a.rounds.length + 1
  /-- However a build ends, its event is sent and the pipeline goes on. -/
  goesOn : p.listening = true → ∀ build changes, p.activity = .building build changes →
    ∀ (now : Nat) (o : Outcome), ∃ e, e.success = o.success ∧
      p.move now (.finish o) = some ({ p with sent := p.sent ++ [e] }.rest now)

theorem Kept.numbered {window : Nat} {p : Pipeline} {a : Account} (h : Kept window p a) :
    p.sent.map Event.build = List.range' 1 p.sent.length := by
  refine List.ext_getElem? fun i => ?_
  rw [List.getElem?_map]
  cases he : p.sent[i]? with
  | none =>
    have hlen : p.sent.length ≤ i := List.getElem?_eq_none_iff.mp he
    rw [Option.map_none, List.getElem?_eq_none (by simpa using hlen)]
  | some e =>
    obtain ⟨hi, -⟩ := List.getElem?_eq_some_iff.mp he
    obtain ⟨batch, o, -, rfl⟩ := h.sent i e he
    rw [Option.map_some, List.getElem?_range' hi, event, Nat.one_mul, Nat.add_comm]

/-- **Builds are numbered from 1 and no change is lost**: every state that the loop can reach has an
account that follows its moves, and after any run the events are those of the builds in order, one for
each build that has ended; the changes of the second and every further one are what was recorded
between two batches, and nothing else is unreported but what is pending in the debouncer or waits in
the queue. -/
theorem builds_numbered_changes_kept {target : Target} {window now : Nat} {p : Pipeline} :
    (Reachable target window now p ↔ ∃ a, Ran target window now p a) ∧
    ∀ a, Ran target window now p a → Accounted window p a ∧
      ∀ (later : Nat) (m : Move) (p' : Pipeline),
        p.move later m = some p' ↔ ∃ a', Does p a later m p' a' := by
  refine ⟨reachable_iff, fun a h => ⟨?_, fun later m p' => move_iff a⟩⟩
  have hk : Kept window p a := h.kept
  have hbuilds : p.builds = a.rounds.length + 1 := by rw [← hk.builds, Account.length_batches]
  constructor
  case numbered => exact hk.numbered
  case builds => exact hbuilds
  case building =>
    intro hl build changes hb
    obtain ⟨hbuild, hlast, hlen⟩ := hk.building build changes hb
    exact ⟨hbuild.trans (hlen hl).symm, (hlen hl).symm, hlast⟩
  case ended => exact fun hl hn => (hk.idle hl hn).symm
  case first =>
    intro e he
    obtain ⟨batch, o, hb, rfl⟩ := hk.sent 0 e he
    cases hb
    exact ⟨rfl, rfl⟩
  case later =>
    intro i e he
    obtain ⟨batch, o, hb, rfl⟩ := hk.sent (i + 1) e he
    have hb : (a.rounds.map Prod.snd)[i]? = some batch := hb
    rw [List.getElem?_map, Option.map_eq_some_iff] at hb
    obtain ⟨⟨es, batch⟩, hr, rfl⟩ := hb
    obtain ⟨d, d', at', hg, ht⟩ := hk.rounds _ (List.mem_of_getElem? hr)
    obtain ⟨hne, hasc, hmerged⟩ := hg.batch ht
    exact ⟨es, batch, hr, hmerged, rfl, ⟨o.read, rfl⟩, by simpa [event] using hne, hasc⟩
  case reported => exact hk.reported
  case recorded => exact hk.gathered
  case pending => exact hk.gathered.merged
  case stopped =>
    intro hl hs
    have hs : p.activity = .stopped := by simpa [isStopped] using hs
    refine ⟨hk.stopped hl hs, ?_⟩
    rw [← hbuilds]
    exact hk.idle hl (by simp [hs])
  case goesOn =>
    intro hl build changes hb now o
    exact ⟨p.event build changes o, rfl, by simp [Pipeline.move, finish, hb, hl]⟩

/-- A first build fails while its sources change, and the changes made until the tree is quiet are
those of the second build, but not the one that is made while that runs. -/
theorem builds_numbered_changes_kept_meanwhile :
    ∃ (p : Pipeline) (a : Account) (e₁ e₂ e₃ : FileEvent) (batch : List Change) (e : Event),
      Reachable .client 300 1060 p ∧ Ran .client 300 1060 p a ∧ p.sent.map Event.build = [1, 2] ∧
        a.reported = [e₁, e₂] ++ [] ++ [e₃] ∧ p.sent[1]? = some e ∧
          Merged [e₁, e₂] batch ∧ e.changed = batch.map Change.path ∧ e.changed ≠ [] := by
  let e₁ : FileEvent := ⟨.modify .data, ["/src/b.ts", "/src/a.ts"]⟩
  let e₂ : FileEvent := ⟨.remove, ["/src/a.ts"]⟩
  let e₃ : FileEvent := ⟨.create, ["/src/c.ts"]⟩
  have h₀ : Ran .client 300 0 _ _ := .new 0
  have h₁ := h₀.move (Nat.zero_le 10) (.report e₁)
  have h₂ := h₁.move (Nat.le_add_right 10 10) (.send ⟨false, fun _ => none, ⟨0, 0⟩⟩ rfl rfl)
  have h₃ := h₂.move (Nat.le_add_right 20 10) (.record rfl rfl rfl)
  have h₄ := h₃.move (Nat.le_add_right 30 10) (.report e₂)
  have h₅ := h₄.move (Nat.le_add_right 40 5) (.record rfl rfl rfl)
  have h₆ := h₅.move (Nat.le_add_right 45 1000) (.begin rfl rfl rfl (by cbv) (if_pos (by cbv)))
  have h₇ := h₆.move (Nat.le_add_right 1045 5) (.report e₃)
  have h₈ := h₇.move (Nat.le_add_right 1050 10) (.send ⟨true, fun _ => none, ⟨0, 0⟩⟩ rfl rfl)
  have hacc := (builds_numbered_changes_kept.2 _ h₈).1
  obtain ⟨es, batch, hr, hm, hc, -, hne, -⟩ := hacc.later 0 _ rfl
  cases hr
  have hreach := builds_numbered_changes_kept.1.mpr ⟨_, h₈⟩
  exact ⟨_, _, e₁, e₂, e₃, _, _, hreach, h₈, hacc.numbered, hacc.reported, rfl, hm, hc, hne⟩

end Pipeline

end DevServer.Build
