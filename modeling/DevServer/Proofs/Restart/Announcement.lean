import DevServer.Proofs.Restart.Order

/-!
# Who announces a change

A change of server components is marked when the server build that made it is handled, and the next
restart that succeeds announces it (`History.Announces`). That restart may have been running already
when the change was marked: then the mark is `UsedUp` when the restart that contains the change ends,
and nobody announces the change again. `change_announced_iff` says exactly when the restart that
contains a change announces it.
-/

namespace DevServer.Restart

namespace History

/-- A restart that was running when a change was announced. -/
def Announces (h : History) (n : Nat) : Prop :=
  ∃ past t later, h = past ++ (t, .published .serverUpdate) :: later ∧ n ∈ History.running past

/-- A restart has succeeded, and no change has been marked since. -/
def UsedUp (h : History) : Prop :=
  ∃ a u n b, h = a ++ (u, .ended n .succeeded) :: b ∧ ∀ v, (v, Happening.marked) ∉ b

variable {h k : History} {t : Nat} {x : Happening}

theorem not_usedUp_nil : ¬UsedUp [] := by
  rintro ⟨a, u, n, b, h, -⟩
  simp at h

theorem usedUp_iff_since :
    UsedUp h ↔ Since (fun x => ∃ n, x = .ended n .succeeded) (· = .marked) h := by
  constructor
  · rintro ⟨a, u, n, b, hh, hb⟩
    exact ⟨a, u, _, b, hh, ⟨n, rfl⟩, fun v y hy he => hb v (he ▸ hy)⟩
  · rintro ⟨a, u, x, b, hh, ⟨n, rfl⟩, hb⟩
    exact ⟨a, u, n, b, hh, fun v hv => hb v _ hv rfl⟩

theorem usedUp_concat :
    UsedUp (h ++ [(t, x)]) ↔ (∃ n, x = .ended n .succeeded) ∨ x ≠ .marked ∧ UsedUp h := by
  rw [usedUp_iff_since, usedUp_iff_since, since_concat]

theorem UsedUp.of_append (hk : ∀ t n, (t, .ended n .succeeded) ∉ k) (hu : UsedUp (h ++ k)) :
    UsedUp h := by
  induction k generalizing h with
  | nil => rwa [List.append_nil] at hu
  | cons e k ih =>
    obtain ⟨t, x⟩ := e
    rw [List.append_cons] at hu
    rcases usedUp_concat.mp (ih (fun t n hm => hk t n (List.mem_cons_of_mem _ hm)) hu)
      with ⟨n, rfl⟩ | ⟨-, hu⟩
    · exact absurd (List.mem_cons_self ..) (hk t n)
    · exact hu

theorem UsedUp.append (hu : UsedUp h) (hk : ∀ t, (t, .marked) ∉ k) : UsedUp (h ++ k) := by
  obtain ⟨a, u, n, b, rfl, hb⟩ := hu
  refine ⟨a, u, n, b ++ k, List.append_assoc .., fun v hv => ?_⟩
  exact (List.mem_append.mp hv).elim (hb v) (hk v)

end History

/-! ## What a move does to the flag -/

/-- What neither sets the flag nor clears it. -/
def Happening.spares : Happening → Bool
  | marked | unmarked | published .serverUpdate | ended _ .succeeded => false
  | requested _ _ | began _ _ | stopCalled _ _ | stopReturned _ _ _ | startCalled _
  | startReturned _ _ | ended _ (.failed _) | ended _ .skipped | abandoned _
  | published (.clientBuilt _) | buildFailed _ _ | serverBuilt _ | serverBuildLost _ _
  | clientWaits _ | clientWaitFailed _ _ | clientSettled _ | loopFinished | shutdownCalled
  | workerDied _ | taskEnded _ _ => true

theorem Happening.spares_of_ofTask {x : Happening} (h : x.ofTask = true) : x.spares = true := by
  cases x with
  | published e => cases e <;> first | rfl | cases h
  | _ => first | rfl | cases h

/-- A move leaves the flag alone, sets it, clears it, or installs a worker and clears it. -/
theorem Move.changed {script : Script} {c c' : Shared} {hs : List Happening}
    (h : Move script c hs c') :
    ((∀ x ∈ hs, x.spares = true) ∧ c'.changed = c.changed) ∨
      (hs = [.marked] ∧ c'.changed = true) ∨ (hs = [.unmarked] ∧ c'.changed = false) ∨
      ∃ n, hs = .startReturned n .ready :: c.news ++ [.ended n .succeeded] ∧
        c'.changed = false := by
  cases h with
  | task hx => exact .inl ⟨by simpa using Happening.spares_of_ofTask hx, rfl⟩
  | mark => exact .inr (.inl ⟨rfl, rfl⟩)
  | unmark => exact .inr (.inr (.inl ⟨rfl, rfl⟩))
  | install hl ht => exact .inr (.inr (.inr ⟨_, rfl, rfl⟩))
  | pass | claim | giveUp | nothingToStop => exact .inl ⟨nofun, rfl⟩
  | request | die | shutDown | skip | stopPrevious | startFirst | startNext | stopLast | stopped
  | fail | panic => exact .inl ⟨by simp [Happening.spares], rfl⟩

/-! ## What follows a mark -/

/-- While nobody else clears the flag, a change is only announced with a mark that is not used up, and
a restart that succeeds announces it last thing, or someone did so before. -/
def History.Heeds (past : History) (x : Happening) : Prop :=
  (∀ u, (u, .unmarked) ∉ past) →
    (x = .published .serverUpdate → ¬UsedUp past) ∧
    ∀ n, x = .ended n .succeeded →
      (∃ u, (u, .published .serverUpdate) ∈ past) ∧
      (¬UsedUp past → ∃ a u, past = a ++ [(u, .published .serverUpdate)])

/-- How the flag stands when `k` has happened since a change was marked. -/
structure Marked (k : History) (c : Shared) : Prop where
  changed : c.changed = false ↔ k.UsedUp
  told : c.changed = false → ∃ u, (u, .published .serverUpdate) ∈ k

namespace Marked

open History

variable {script : Script} {c₁ c c' : Shared} {k : History} {hs : List Happening} {t n : Nat}

theorem heeds_of_spares {x : Happening} (hx : x.spares = true) : Heeds k x := by
  refine fun _ => ⟨?_, fun n => ?_⟩
  · rintro rfl; cases hx
  · rintro rfl; cases hx

theorem eachAfter_of_spares (hx : ∀ x ∈ hs, x.spares = true) :
    EachAfter Heeds k (hs.map (t, ·)) :=
  eachAfter_stamp fun x hm _ => heeds_of_spares (hx x hm)

/-- A move that leaves the flag alone. -/
theorem spare (hk : Marked k c) (hx : ∀ x ∈ hs, x.spares = true)
    (hc : c'.changed = c.changed) : Marked (k ++ hs.map (t, ·)) c' where
  changed := by
    have hmem {u : Nat} {x : Happening} (hm : (u, x) ∈ hs.map (t, ·)) : x.spares = true :=
      hx x (mem_stamp.mp hm).2
    rw [hc, hk.changed]
    refine ⟨fun h => h.append fun u hm => ?_, fun h => h.of_append fun u n hm => ?_⟩
    · cases hmem hm
    · cases hmem hm
  told := fun h => by
    obtain ⟨u, hu⟩ := hk.told (hc ▸ h)
    exact ⟨u, List.mem_append_left _ hu⟩

/-- A worker is installed, and the mark is used up if it was not before. -/
theorem install (hk : (∀ u, (u, .unmarked) ∉ k) → Marked k c) (n : Nat)
    (hc : c'.changed = false) {hs : List Happening}
    (hhs : hs = .startReturned n .ready :: c.news ++ [.ended n .succeeded]) :
    EachAfter Heeds k (hs.map (t, ·)) ∧
      ((∀ u, (u, .unmarked) ∉ k) → Marked (k ++ hs.map (t, ·)) c') := by
  have hused (l : List Happening) :
      UsedUp (k ++ (l ++ [Happening.ended n .succeeded]).map (t, ·)) := by
    rw [List.map_append, ← List.append_assoc]
    exact usedUp_concat.mpr (.inl ⟨n, rfl⟩)
  rcases hch : c.changed with _ | _ <;> rw [Shared.news, hch] at hhs <;> subst hhs
  · -- the mark has been used up, and then someone has been told
    have hst : UsedUp (k ++ [(t, .startReturned n .ready)]) ↔ UsedUp k := by
      rw [usedUp_concat]; simp
    refine ⟨⟨heeds_of_spares rfl, fun hu => ⟨(fun h => by cases h), fun m _ => ?_⟩, trivial⟩,
      fun hu => ⟨?_, ?_⟩⟩
    · have hm := hk fun u hm => hu u (List.mem_append_left _ hm)
      obtain ⟨u, hm'⟩ := hm.told hch
      exact ⟨⟨u, List.mem_append_left _ hm'⟩, fun h => absurd (hst.mpr (hm.changed.mp hch)) h⟩
    · exact iff_of_true hc (hused [.startReturned n .ready])
    · intro _
      obtain ⟨u, hm'⟩ := (hk hu).told hch
      exact ⟨u, List.mem_append_left _ hm'⟩
  · refine ⟨⟨heeds_of_spares rfl, ?_, ?_, trivial⟩, fun hu => ⟨?_, ?_⟩⟩
    · intro hu
      refine ⟨fun _ => ?_, fun _ h => by cases h⟩
      have hm := hk fun u hm => hu u (List.mem_append_left _ hm)
      rw [usedUp_concat, ← hm.changed, hch]; simp
    · intro hu
      refine ⟨(fun h => by cases h), fun m _ => ⟨⟨t, by simp⟩, fun _ => ⟨_, t, rfl⟩⟩⟩
    · exact iff_of_true hc (hused [.startReturned n .ready, .published .serverUpdate])
    · exact fun _ => ⟨t, by simp⟩

theorem moves (hc : c₁.changed = true) (hm : Moves script c₁ k c) :
    k.Each Heeds ∧ ((∀ u, (u, .unmarked) ∉ k) → Marked k c) := by
  induction hm with
  | refl =>
    refine ⟨each_nil, fun _ => ⟨?_, ?_⟩⟩
    · simp [hc, not_usedUp_nil]
    · simp [hc]
  | @move k c c' hs _ hm ih =>
    obtain ⟨he, hk⟩ := ih
    have hk' : (∀ u, (u, .unmarked) ∉ k ++ hs.map (c.now, ·)) → Marked k c :=
      fun hu => hk fun u hm => hu u (List.mem_append_left _ hm)
    rcases hm.changed with ⟨hx, hc'⟩ | ⟨rfl, hc'⟩ | ⟨rfl, hc'⟩ | ⟨n, rfl, hc'⟩
    · exact ⟨each_append.mpr ⟨he, eachAfter_of_spares hx⟩, fun hu => (hk' hu).spare hx hc'⟩
    · refine ⟨each_concat.mpr ⟨he, fun _ => ⟨nofun, nofun⟩⟩, fun _ => ⟨?_, ?_⟩⟩
      · rw [hc', List.map_singleton, usedUp_concat]; simp
      · simp [hc']
    · exact ⟨each_concat.mpr ⟨he, fun _ => ⟨nofun, nofun⟩⟩, fun hu => absurd (hu c.now) (by simp)⟩
    · obtain ⟨h1, h2⟩ := install (t := c.now) hk n hc' rfl
      exact ⟨each_append.mpr ⟨he, h1⟩, fun hu => h2 fun u hm => hu u (List.mem_append_left _ hm)⟩

end Marked

/-! ## Who announces it -/

section
variable {script : Script} {s s₁ s₂ : State} {task ms n : Nat} {e : Build.Event}

/-- A build that changed server components is marked before its restart is asked for. -/
theorem handleFresh_touched (s : State) (task : Nat) (he : e.success = true)
    (hv : e.target = .server) (hc : e.touchedServer = true) :
    (s.handleFresh task e).changed = true ∧
      (s.handleFresh task e).history = s.history ++
        [(s.now, .marked), (s.now, .serverBuilt e.build),
          (s.now, .requested s.tracker.ticket s.tracker.queued.isSome)] := by
  simp [State.handleFresh, State.request, State.setStage, State.note, he, hv, hc]

theorem stage_handleFresh_server {t : Task} (ht : s.tasks[task]? = some t) (he : e.success = true)
    (hv : e.target = .server) :
    (s.handleFresh task e).stage? task = some (.waiting s.tracker.ticket) := by
  rcases hc : e.touchedServer <;>
    simp [State.handleFresh, State.request, State.setStage, State.note, State.stage?, he, hv, hc, ht]

end

section
open History

variable {k later rest : History} {n t : Nat}

/-- Before the restart `n` ends, only the one before it can end with success. -/
theorem ended_before (he : Each Orderly (k ++ later ++ rest)) (hb : k.begun = upTo (n - 1))
    (ho : History.closed (k ++ later) = upTo (n - 1)) {u m : Nat} {a b : History}
    (hl : later = a ++ (u, .ended m .succeeded) :: b) :
    m ∈ upTo (n - 1) ∧ m + 1 = n ∧ History.begun (k ++ a) = upTo m := by
  subst hl
  obtain ⟨hpos, hbm, hom, -⟩ := he (k ++ a) u (.ended m .succeeded) (b ++ rest) (by simp)
  have h1 := congrArg List.length hbm
  have h2 := congrArg List.length ho
  rw [← List.append_assoc, closed_append, hom] at h2
  simp [hb] at h1
  simp [History.closed, Happening.closed?] at h2
  exact ⟨mem_upTo.mpr (by omega), by omega, hbm⟩

/-- A restart that had not begun at the mark announces the change only with a mark that is not used
up, and then no other restart ends before it does. -/
theorem not_usedUp_of_announces (he : Each Orderly (k ++ later ++ rest))
    (hb : k.begun = upTo (n - 1)) (ho : History.closed (k ++ later) = upTo (n - 1))
    (hh : Each Heeds later) (hu : ∀ u, (u, .unmarked) ∉ later) {m : Nat} (hm : m ∉ k.begun)
    (ha : Announces (k ++ later) m) : ¬UsedUp later := by
  obtain ⟨past, u, l, hl, hrun⟩ := ha
  have hmb : m ∈ past.begun := (List.mem_filter.mp hrun).1
  rcases List.append_eq_append_iff.mp hl with ⟨a, rfl, hla⟩ | ⟨b, rfl, -⟩
  · have hua : ∀ v, (v, .unmarked) ∉ a := fun v hv =>
      hu v (by rw [hla]; exact List.mem_append_left _ hv)
    obtain ⟨hnot, -⟩ := hh a u _ l hla hua
    intro hused
    rw [hla] at hused
    refine hnot rfl (hused.of_append fun v i hi => ?_)
    rcases List.mem_cons.mp hi with hi | hi
    · cases hi
    · -- it would be the restart before `n`, which ends before any later one begins
      obtain ⟨c, d, rfl⟩ := List.append_of_mem hi
      have hli : later = (a ++ (u, .published .serverUpdate) :: c) ++
          (v, .ended i .succeeded) :: d := by rw [hla]; simp
      obtain ⟨hi, -, hbi⟩ := ended_before he hb ho hli
      rw [← List.append_assoc, begun_append] at hbi
      have hmi : m ∈ upTo i := by rw [← hbi]; exact List.mem_append_left _ hmb
      rw [hb] at hm
      simp only [mem_upTo] at hi hmi hm
      omega
  · exact absurd (by rw [begun_append]; exact List.mem_append_left _ hmb) hm

theorem announces_of_not_usedUp (hb : History.begun (k ++ later) = upTo n)
    (ho : History.closed (k ++ later) = upTo (n - 1)) (hpos : 0 < n)
    (hl : ∃ a u, later = a ++ [(u, .published .serverUpdate)]) : Announces (k ++ later) n := by
  obtain ⟨a, u, rfl⟩ := hl
  rw [← List.append_assoc] at hb ho ⊢
  rw [begun_concat, show (Happening.published .serverUpdate).begun? = none from rfl,
    Option.toList_none, List.append_nil] at hb
  rw [closed_concat, show (Happening.published .serverUpdate).closed? = none from rfl,
    Option.toList_none, List.append_nil] at ho
  refine ⟨k ++ a, u, [], rfl, ?_⟩
  rw [History.running, List.mem_filter, hb, ho, mem_upTo]
  refine ⟨⟨hpos, Nat.le_refl n⟩, decide_eq_true fun hn => ?_⟩
  rw [mem_upTo] at hn
  omega

end

/-- **Who announces a change.** When the restart that the handling of a change waits on succeeds, the
change has been announced by a restart that began after the handling if and only if the restart that
was running then has not used up the mark; in any case something has been announced. -/
theorem change_announced_iff {script : Script} {s s₁ s₂ : State} {task ms n t : Nat}
    {e : Build.Event} {number : Option Nat} {later rest : History} (hs : Reachable script s)
    (ht : s.tasks[task]? = some ⟨.handle e ms, .fresh, number⟩) (he : e.success = true)
    (hv : e.target = .server) (hc : e.touchedServer = true) (hp : s.poll task = some s₁)
    (hw : s₁.stage? task = some (.waiting n)) (hr : Run script anyAction s₁ s₂)
    (hh : s₂.history = s₁.history ++ later ++ (t, .ended n .succeeded) :: rest)
    (hu : ∀ u, (u, .unmarked) ∉ later) :
    ((∃ m, m ∉ s.history.begun ∧ History.Announces (s₁.history ++ later) m) ↔ ¬later.UsedUp) ∧
      (∀ u m, (u, .ended m .succeeded) ∈ later → m + 1 = n ∧ m ∈ s.history.begun) ∧
      ∃ u, (u, .published .serverUpdate) ∈ later := by
  have hs₁ : Reachable script s₁ := hs.step (a := .poll task) hp
  rw [poll_fresh ht rfl] at hp
  obtain rfl : s.handleFresh task e = s₁ := Option.some.inj hp
  obtain ⟨hch, hk⟩ := handleFresh_touched s task he hv hc
  obtain rfl : s.tracker.ticket = n := by
    rw [stage_handleFresh_server ht he hv] at hw; cases hw; rfl
  -- the restart is the next one to begin when the change is marked
  have hn : s.tracker.ticket = s.tracker.started + 1 := hs.ordered.queue.ticket
  have hb : s.history.begun = upTo (s.tracker.ticket - 1) := by
    rw [hn]; exact hs.ordered.tally.begun
  have hb₁ : (s.handleFresh task e).history.begun = upTo (s.tracker.ticket - 1) := by
    rw [hk, History.begun_append, hb]; simp [History.begun, Happening.begun?]
  have heach := (hr.reachable hs₁).ordered.tally.each
  obtain ⟨hpos, hbn, hon, -⟩ := heach _ t _ rest hh
  rw [hh] at heach
  -- and what has happened since then heeds the mark
  obtain ⟨k, hm, hk₂⟩ := hr.evolves
  obtain rfl : k = later ++ (t, .ended s.tracker.ticket .succeeded) :: rest := by
    rw [hh, List.append_assoc] at hk₂; exact (List.append_cancel_left hk₂).symm
  have hch : (s.handleFresh task e).shared.changed = true := hch
  have hheeds := (Marked.moves hch hm).1
  obtain ⟨-, hlast⟩ := hheeds later t _ rest rfl hu
  obtain ⟨htold, hnews⟩ := hlast _ rfl
  refine ⟨⟨?_, fun hnot => ?_⟩, fun u m hmem => ?_, htold⟩
  · rintro ⟨m, hm, ha⟩
    rw [hb, ← hb₁] at hm
    exact not_usedUp_of_announces heach hb₁ hon (History.each_append.mp hheeds).1 hu hm ha
  · refine ⟨_, ?_, announces_of_not_usedUp hbn hon hpos (hnews hnot)⟩
    rw [hb, mem_upTo]; omega
  · obtain ⟨a, b, hl⟩ := List.append_of_mem hmem
    obtain ⟨hm, hmn, -⟩ := ended_before heach hb₁ hon hl
    exact ⟨hmn, hb ▸ hm⟩

/-- A server build that has succeeded, after no change that is known. -/
def serverBuild (build : Nat) (touchedServer : Bool) : Build.Event :=
  ⟨.server, true, build, ⟨0, 0⟩, [], touchedServer⟩

/-- With nothing else going on, the restart that a change asks for announces it. -/
theorem change_announced_when_idle : ∃ (s s₁ s₂ : State) (later : History),
    Reachable ⟨[], []⟩ s ∧ s.poll 0 = some s₁ ∧
    s₂.history = s₁.history ++ later ++ [(500, .ended 1 .succeeded)] ∧
    ∃ m, m ∉ s.history.begun ∧ History.Announces (s₁.history ++ later) m := by
  obtain ⟨s, s₁, s₂, hf, hp, hf₂, hw, ht, hh⟩ : ∃ s s₁ s₂ : State,
      State.new.follow? ⟨[], []⟩ anyAction [.spawn (.handle (serverBuild 1 true) 1000)] = some s ∧
      s.poll 0 = some s₁ ∧
      s₁.follow? ⟨[], []⟩ anyAction [.claim 1, .turn, .pass 500, .turn] = some s₂ ∧
      s₁.stage? 0 = some (.waiting 1) ∧
      s.tasks[0]? = some ⟨.handle (serverBuild 1 true) 1000, .fresh, some 0⟩ ∧
      s₂.history = s₁.history ++ [(0, .began 1 false), (0, .startCalled 1),
        (500, .startReturned 1 .ready), (500, .published .serverUpdate)] ++
        [(500, .ended 1 .succeeded)] :=
    ⟨_, _, _, rfl, rfl, rfl, rfl, rfl, rfl⟩
  have hs := (run_follow? hf).reachable .new
  obtain ⟨hiff, -, -⟩ := change_announced_iff hs ht rfl rfl rfl hp hw (run_follow? hf₂) hh (by simp)
  refine ⟨s, s₁, s₂, _, hs, hp, hh, hiff.mpr ?_⟩
  rintro ⟨a, u, n, b, hl, -⟩
  have hm : (u, Happening.ended n .succeeded) ∈ a ++ (u, .ended n .succeeded) :: b := by simp
  rw [← hl] at hm
  simp at hm

/-- A restart that was running already can use up the mark of a change: no restart that begins after
the change was handled announces it then, though the one that contains the change succeeds. -/
theorem change_not_announced : ¬∀ (script : Script) (s s₁ s₂ : State) (task ms n t : Nat)
    (e : Build.Event) (number : Option Nat), Reachable script s →
      s.tasks[task]? = some ⟨.handle e ms, .fresh, number⟩ → e.success = true →
      e.target = .server → e.touchedServer = true → s.poll task = some s₁ →
      s₁.stage? task = some (.waiting n) → Run script anyAction s₁ s₂ →
      (t, .ended n .succeeded) ∈ s₂.history → (∀ u, (u, .unmarked) ∉ s₂.history) →
      ∃ m, m ∉ s.history.begun ∧ s₂.history.Announces m := by
  intro hall
  obtain ⟨s, s₁, s₂, hf, hp, hf₂, hw, ht, hb, hh⟩ : ∃ s s₁ s₂ : State,
      State.new.follow? ⟨[], []⟩ anyAction
        [.spawn (.handle (serverBuild 1 false) 1000), .poll 0, .claim 1, .turn, .pass 100,
          .spawn (.handle (serverBuild 2 true) 1000)] = some s ∧
      s.poll 1 = some s₁ ∧
      s₁.follow? ⟨[], []⟩ anyAction
        [.pass 400, .turn, .claim 2, .turn, .pass 50, .turn, .pass 500, .turn] = some s₂ ∧
      s₁.stage? 1 = some (.waiting 2) ∧
      s.tasks[1]? = some ⟨.handle (serverBuild 2 true) 1000, .fresh, some 1⟩ ∧
      s.history.begun = [1] ∧
      s₂.history =
        [(0, .serverBuilt 1), (0, .requested 1 false), (0, .began 1 false), (0, .startCalled 1),
          (100, .marked), (100, .serverBuilt 2), (100, .requested 2 false),
          (500, .startReturned 1 .ready), (500, .published .serverUpdate), (500, .ended 1 .succeeded),
          (500, .began 2 false), (500, .stopCalled (.restart 2) 1),
          (550, .stopReturned (.restart 2) 1 none), (550, .startCalled 2),
          (1050, .startReturned 2 .ready), (1050, .ended 2 .succeeded)] :=
    ⟨_, _, _, rfl, rfl, rfl, rfl, rfl, rfl, rfl⟩
  have hs := (run_follow? hf).reachable .new
  have heach : s₂.history.Each fun past x =>
      x = .published .serverUpdate → ∀ m ∈ past.running, m = 1 := by
    rw [hh]
    refine History.each_of_eachAfter ?_
    simp only [History.EachAfter]
    decide
  obtain ⟨m, hm, past, u, later, hl, hrun⟩ := hall _ s s₁ s₂ 1 1000 2 1050 _ _ hs ht rfl rfl rfl hp
    hw (run_follow? hf₂) (by simp [hh]) (by simp [hh])
  rw [hb, heach past u _ later hl rfl m hrun] at hm
  simp at hm

end DevServer.Restart
