import DevServer.Proofs.Restart.Announcement
import DevServer.Proofs.Restart.Fates
import DevServer.Proofs.Restart.Steps

/-!
# The account of changes

A change of server components is owed from when it is marked until something is announced
(`History.Unannounced`). As long as nobody but restarts clears the flag, the flag says whether a
change is owed, announcements pay for changes that were owed, and only a restart that succeeds pays
(`changes_accounted`).
-/

namespace DevServer.Restart

namespace History

/-- A change has been marked, and nothing has been announced since. -/
def Unannounced (h : History) : Prop := Since (· = .marked) (· = .published .serverUpdate) h

variable {h k : History} {t : Nat} {x : Happening}

theorem not_unannounced_nil : ¬Unannounced [] := by
  rintro ⟨a, u, y, b, h, -⟩
  simp at h

theorem unannounced_concat :
    Unannounced (h ++ [(t, x)]) ↔ x = .marked ∨ x ≠ .published .serverUpdate ∧ Unannounced h :=
  since_concat

/-- What neither sets the flag nor clears it changes nothing about what is owed. -/
theorem unannounced_append {hs : List Happening} (hx : ∀ x ∈ hs, x.spares = true) :
    Unannounced (h ++ hs.map (t, ·)) ↔ Unannounced h := by
  induction hs generalizing h with
  | nil => simp
  | cons x hs ih =>
    have hsp := hx x (List.mem_cons_self ..)
    rw [List.map_cons, List.append_cons, ih fun y hy => hx y (List.mem_cons_of_mem _ hy),
      unannounced_concat]
    refine ⟨?_, fun h => .inr ⟨?_, h⟩⟩
    · rintro (rfl | ⟨-, h⟩)
      · cases hsp
      · exact h
    · rintro rfl; cases hsp

/-- Something has been announced since a mark that is not owed any more. -/
theorem announced_of_marked {past mid : History} {u : Nat}
    (hn : ¬Unannounced (past ++ (u, .marked) :: mid)) :
    ∃ v, (v, Happening.published .serverUpdate) ∈ mid := by
  refine Classical.byContradiction fun hno => hn ⟨past, u, .marked, mid, rfl, rfl, ?_⟩
  rintro v y hy rfl
  exact hno ⟨v, hy⟩

/-- While nobody else clears the flag, only a change that is owed is announced, and none is owed any
more when a restart succeeds. -/
def Balanced (past : History) (x : Happening) : Prop :=
  (∀ u, (u, .unmarked) ∉ past) →
    (x = .published .serverUpdate → Unannounced past) ∧
    ∀ n, x = .ended n .succeeded → ¬Unannounced past

end History

/-! ## The flag -/

open History in
/-- The flag says whether a change is owed, as long as nobody else has cleared it. -/
structure Balance (h : History) (c : Shared) : Prop where
  each : h.Each Balanced
  flag : (∀ u, (u, .unmarked) ∉ h) → (c.changed = true ↔ h.Unannounced)

namespace Balance

open History

variable {script : Script} {c c' : Shared} {h : History} {hs : List Happening} {t n : Nat}

theorem balanced_of_spares {x : Happening} (hx : x.spares = true) : Balanced h x := by
  refine fun _ => ⟨?_, fun n => ?_⟩
  · rintro rfl; cases hx
  · rintro rfl; cases hx

/-- A move that leaves the flag alone. -/
theorem spare (hb : Balance h c) (hx : ∀ x ∈ hs, x.spares = true) (hc : c'.changed = c.changed) :
    Balance (h ++ hs.map (t, ·)) c' where
  each := each_append.mpr ⟨hb.each, eachAfter_stamp fun x hm _ => balanced_of_spares (hx x hm)⟩
  flag := fun hu => by
    rw [hc, unannounced_append hx]
    exact hb.flag fun u hm => hu u (List.mem_append_left _ hm)

/-- A restart that installs its worker pays for what is owed. -/
theorem install (hb : Balance h c) (hc : c'.changed = false) (hhs : hs =
    .startReturned n .ready :: c.news ++ [.ended n .succeeded]) :
    Balance (h ++ hs.map (t, ·)) c' := by
  have hst : Unannounced (h ++ [(t, .startReturned n .ready)]) ↔ Unannounced h := by
    rw [unannounced_concat]; simp
  have hflag {k : History} (hu : ∀ u, (u, .unmarked) ∉ h ++ k) :
      c.changed = true ↔ Unannounced h := hb.flag fun u hm => hu u (List.mem_append_left _ hm)
  rcases hch : c.changed with _ | _ <;>
    simp only [Shared.news, hch, Bool.false_eq_true, ↓reduceIte, List.cons_append,
      List.nil_append] at hhs <;> subst hhs
  · -- nothing is owed, and nothing is announced
    have hnot {k : History} (hu : ∀ u, (u, .unmarked) ∉ h ++ k) :
        ¬Unannounced (h ++ [(t, .startReturned n .ready)]) := by
      rw [hst, ← hflag hu, hch]; simp
    refine ⟨each_append.mpr ⟨hb.each, balanced_of_spares rfl, ?_, trivial⟩, fun hu => ?_⟩
    · exact fun hu => ⟨(fun h => by cases h), fun m _ => hnot hu⟩
    · rw [hc, List.map_cons, List.append_cons, List.map_singleton, unannounced_concat]
      simpa using hnot hu
  · refine ⟨each_append.mpr ⟨hb.each, balanced_of_spares rfl, ?_, ?_, trivial⟩, fun hu => ?_⟩
    · exact fun hu => ⟨fun _ => hst.mpr ((hflag hu).mp hch), by simp⟩
    · exact fun hu => ⟨(fun h => by cases h), fun m _ => by rw [unannounced_concat]; simp⟩
    · rw [hc, List.map_cons, List.append_cons, List.map_cons, List.append_cons, List.map_singleton,
        unannounced_concat, unannounced_concat]
      simp

theorem move (hb : Balance h c) (hm : Move script c hs c') :
    Balance (h ++ hs.map (c.now, ·)) c' := by
  rcases hm.changed with ⟨hx, hc⟩ | ⟨rfl, hc⟩ | ⟨rfl, hc⟩ | ⟨n, hhs, hc⟩
  · exact hb.spare hx hc
  · refine ⟨each_concat.mpr ⟨hb.each, fun _ => ⟨nofun, nofun⟩⟩, fun _ => ?_⟩
    rw [hc, List.map_singleton, unannounced_concat]; simp
  · exact ⟨each_concat.mpr ⟨hb.each, fun _ => ⟨nofun, nofun⟩⟩,
      fun hu => absurd (hu c.now) (by simp)⟩
  · exact hb.install hc hhs

theorem new : Balance [] State.new.shared where
  each := each_nil
  flag := fun _ => ⟨nofun, fun h => absurd h not_unannounced_nil⟩

end Balance

theorem Reachable.balance {script : Script} {s : State} (h : Reachable script s) :
    Balance s.history s.shared := h.invariant .new .move

/-! ## Who pays -/

/-- The restart `n` announces a change in the turn that leads from `s` to `s'`: its call for a
worker has come back with a live one, which is in the slot in `m`, and the restart succeeds. -/
structure Announcing (script : Script) (s m s' : State) (n : Nat) : Prop where
  reachable : Reachable script s
  starting : ∃ due rest, s.line = .starts n due .ready :: rest
  turn : s.turn script = some s'
  slot : m.slot = some (s.workers + 1)
  alive : s.workers + 1 ∈ m.alive
  history : m.history = s.history ++ [(s.now, .startReturned n .ready)]
  ended : s' = ({ m with changed := false }.note (.published .serverUpdate)).conclude n .succeeded

section
variable {script : Script} {s m s' : State} {n : Nat} {k : History}

/-- A step that happens while a change is owed clears the flag only for one reason. -/
theorem Moves.keeps {c c' : Shared} (h : Moves script c k c') (hc : c.changed = true)
    (hk : ∀ u x, (u, x) ∈ k → x ≠ .unmarked ∧ ∀ n, x ≠ .ended n .succeeded) :
    c'.changed = true := by
  induction h with
  | refl => exact hc
  | @move k c' c'' hs _ hm ih =>
    have ih := ih fun u x hx => hk u x (List.mem_append_left _ hx)
    have hs {x : Happening} (hx : x ∈ hs) : x ≠ .unmarked ∧ ∀ n, x ≠ .ended n .succeeded :=
      hk c'.now x (List.mem_append_right _ (History.mem_stamp.mpr ⟨rfl, hx⟩))
    rcases hm.changed with ⟨-, hc⟩ | ⟨-, hc⟩ | ⟨rfl, -⟩ | ⟨n, rfl, -⟩
    · rw [hc]; exact ih
    · exact hc
    · exact absurd rfl (hs (List.mem_singleton.mpr rfl)).1
    · exact absurd rfl ((hs (x := .ended n .succeeded) (by simp)).2 n)

/-- The owner of the slot leaves the flag alone, unless it is a restart that gets its worker. -/
theorem Turned.spares {hs : List Happening} (h : Turned script s hs s') :
    (∀ x ∈ hs, x.spares = true) ∨ ∃ n due rest, s.line = .starts n due .ready :: rest ∧
      hs = .startReturned n .ready :: s.shared.news ++ [.ended n .succeeded] := by
  cases h with
  | install hl => exact .inr ⟨_, _, _, hl, rfl⟩
  | _ => exact .inl (by simp [Happening.spares])

/-- What is told of a change, and the success of a restart, are a restart's that gets its worker. -/
theorem installs_step {a : Action} (h : step script s a = some s')
    (hk : s'.history = s.history ++ k) {u : Nat} {x : Happening} (hx : (u, x) ∈ k)
    (hslot : x.atSlot = true) (hsp : x.spares = false) :
    a = .turn ∧ ∃ n due rest, s.line = .starts n due .ready :: rest ∧
      k = (.startReturned n .ready :: s.shared.news ++ [.ended n .succeeded] : List Happening).map
        (s.now, ·) := by
  obtain ⟨rfl, hs, ht, rfl, hmem⟩ := turned_of_atSlot h hk hx hslot
  refine ⟨rfl, ?_⟩
  rcases ht.spares with hall | ⟨n, due, rest, hl, rfl⟩
  · rw [hall x hmem] at hsp; cases hsp
  · exact ⟨n, due, rest, hl, rfl⟩

/-- A restart that gets its worker while a change is owed announces it. -/
theorem announcing (hs : Reachable script s) {due : Nat} {rest : List Claim}
    (hl : s.line = .starts n due .ready :: rest) (h : s.turn script = some s')
    (hc : s.changed = true) : ∃ m, Announcing script s m s' n ∧ m.now = s.now := by
  refine ⟨{ s.note (.startReturned n .ready) with
    workers := s.workers + 1, alive := (s.workers + 1) :: s.alive, slot := some (s.workers + 1) },
    ⟨hs, ⟨due, rest, hl⟩, h, rfl, List.mem_cons_self .., rfl, ?_⟩, rfl⟩
  simp only [State.turn, hl] at h
  split at h
  · cases h
    simp only [State.startReturned, State.installWorker, State.note, hc, ↓reduceIte]
  · cases h

/-- A change is announced by a restart that gets its worker. -/
theorem announcing_of_published {a : Action} (hs : Reachable script s)
    (h : step script s a = some s') {past l : History} {u : Nat} (hp : past = s.history ++ k)
    (hl : s'.history = past ++ (u, .published .serverUpdate) :: l) :
    ∃ m n, Announcing script s m s' n ∧ m.history = past ∧ m.now = u := by
  subst hp
  rw [List.append_assoc] at hl
  obtain ⟨rfl, n, due, rest, hline, hk⟩ := installs_step h hl (u := u)
    (x := .published .serverUpdate) (by simp) rfl rfl
  rcases hc : s.changed with _ | _
  · have hm : (u, Happening.published .serverUpdate) ∈
        k ++ (u, .published .serverUpdate) :: l := by simp
    rw [hk, Shared.news, show s.shared.changed = false from hc] at hm
    simp at hm
  · obtain ⟨m, ha, hn⟩ := announcing hs hline h hc
    rw [Shared.news, show s.shared.changed = true from hc] at hk
    obtain ⟨rfl, rfl⟩ : k = [(s.now, .startReturned n .ready)] ∧ u = s.now := by
      rcases k with _ | ⟨y, _ | ⟨z, _ | ⟨w, k⟩⟩⟩ <;> simp at hk
      exact ⟨by rw [hk.1], hk.2.1⟩
    exact ⟨m, n, ha, ha.history, hn⟩

/-- The flag is cleared by a restart that gets its worker, as long as nobody else clears it. -/
theorem announcing_of_cleared {a : Action} (hs : Reachable script s)
    (h : step script s a = some s') (hu : ∀ u, (u, .unmarked) ∉ s'.history)
    (hc : s.changed = true) (hc' : s'.changed = false) : ∃ m n, Announcing script s m s' n := by
  obtain ⟨k, hm, hk⟩ := evolves_step h
  by_cases hend : ∃ u n, (u, Happening.ended n .succeeded) ∈ k
  · obtain ⟨u, n, hx⟩ := hend
    obtain ⟨rfl, n, due, rest, hline, -⟩ := installs_step h hk hx rfl rfl
    obtain ⟨m, ha, -⟩ := announcing hs hline h hc
    exact ⟨m, n, ha⟩
  · have hkeep := hm.keeps hc fun u x hx => ⟨?_, ?_⟩
    · exact Bool.noConfusion (hkeep.symm.trans hc')
    · rintro rfl
      exact hu u (by rw [hk]; exact List.mem_append_right _ hx)
    · rintro n rfl
      exact hend ⟨u, n, hx⟩

theorem Announcing.published (ha : Announcing script s m s' n) :
    s'.history =
      m.history ++ [(m.now, .published .serverUpdate)] ++ [(m.now, .ended n .succeeded)] :=
  congrArg State.history ha.ended

end

/-! ## The account -/

/-- How changes of server components are accounted for on the way to `s`. -/
structure State.Accounted (script : Script) (s : State) : Prop where
  /-- A change that has been marked since the last announcement is owed when one is made. -/
  owed : ∀ (past later : History) u,
    s.history = past ++ (u, .published .serverUpdate) :: later → past.Unannounced
  /-- Whatever is announced is announced by a restart that succeeds, with its worker in the slot. -/
  byRestart : ∀ (past later : History) u,
    s.history = past ++ (u, .published .serverUpdate) :: later →
      ∃ s₀ m s₁ n, Announcing script s₀ m s₁ n ∧ m.history = past ∧ m.now = u ∧
        Run script anyAction s₁ s
  once : ∀ s₀ m s₁ s₀' m' s₁' n, Announcing script s₀ m s₁ n → Run script anyAction s₁ s →
    Announcing script s₀' m' s₁' n → Run script anyAction s₁' s → m.history = m'.history
  /-- The flag is cleared by a restart that announces a change, so by none that ends otherwise. -/
  cleared : ∀ s₀ a s₁, Reachable script s₀ → step script s₀ a = some s₁ →
    Run script anyAction s₁ s → s₀.changed = true → s₁.changed = false →
      ∃ m n, Announcing script s₀ m s₁ n ∧
        ∀ u x, (u, x) ∈ s.history → x.closed? = some n → x = .ended n .succeeded
  /-- When a restart succeeds, every change that was marked has been announced since. -/
  paid : ∀ (past mid later : History) u v n,
    s.history = past ++ (u, .marked) :: mid ++ (v, .ended n .succeeded) :: later →
      ∃ w, (w, .published .serverUpdate) ∈ mid
  flag : s.changed = true ↔ s.history.Unannounced

/-- **The account of changes.** As long as nobody but restarts clears the flag, every announcement
pays for a change that was owed, every change is paid for by the next restart that succeeds, and the
flag says whether one is owed. -/
theorem changes_accounted {script : Script} {s : State} (hs : Reachable script s)
    (hu : ∀ u, (u, .unmarked) ∉ s.history) : s.Accounted script := by
  have hpast {past later : History} (hh : s.history = past ++ later) :
      ∀ u, (u, .unmarked) ∉ past := fun u hm => hu u (by rw [hh]; exact List.mem_append_left _ hm)
  have hrun {s₁ : State} (hr : Run script anyAction s₁ s) : ∃ j, s.history = s₁.history ++ j := by
    obtain ⟨j, -, hj⟩ := hr.evolves
    exact ⟨j, hj⟩
  have hend {s₀ m s₁ : State} {n : Nat} (ha : Announcing script s₀ m s₁ n)
      (hr : Run script anyAction s₁ s) : ∃ j, s.history =
        m.history ++ [(m.now, .published .serverUpdate)] ++ (m.now, .ended n .succeeded) :: j := by
    obtain ⟨j, hj⟩ := hrun hr
    exact ⟨j, by rw [hj, ha.published, List.append_assoc, List.singleton_append]⟩
  constructor
  case owed => exact fun past later u hh => (hs.balance.each past u _ later hh (hpast hh)).1 rfl
  case byRestart =>
    intro past later u hh
    obtain ⟨s₀, a, s₁, k, l, hs₀, h, hr, hp, hl⟩ := hs.happened hh
    obtain ⟨m, n, ha, hm, hn⟩ := announcing_of_published hs₀ h hp hl
    exact ⟨s₀, m, s₁, n, ha, hm, hn, hr⟩
  case once =>
    intro s₀ m s₁ s₀' m' s₁' n ha hr ha' hr'
    obtain ⟨j, hj⟩ := hend ha hr
    obtain ⟨j', hj'⟩ := hend ha' hr'
    exact (List.append_inj' (hs.closed_once hj hj' rfl rfl).1 rfl).1
  case cleared =>
    intro s₀ a s₁ hs₀ h hr hc hc'
    obtain ⟨j, hj⟩ := hrun hr
    obtain ⟨m, n, ha⟩ := announcing_of_cleared hs₀ h (hpast hj) hc hc'
    refine ⟨m, n, ha, fun u x hx hxn => ?_⟩
    obtain ⟨j, hj⟩ := hend ha hr
    obtain ⟨a, b, hh⟩ := List.append_of_mem hx
    exact (Prod.mk.inj (hs.closed_once hh hj hxn rfl).2).2
  case paid =>
    intro past mid later u v n hh
    exact History.announced_of_marked ((hs.balance.each _ v _ later hh (hpast hh)).2 n rfl)
  case flag => exact hs.balance.flag hu

/-- A change that the first restart fails to announce is announced by the second one. -/
theorem changes_accounted_after_failure : ∃ s, Reachable ⟨[⟨100, .dead⟩], []⟩ s ∧
    s.Accounted ⟨[⟨100, .dead⟩], []⟩ ∧ (100, .ended 1 (.failed (.exited none))) ∈ s.history ∧
    (600, .published .serverUpdate) ∈ s.history := by
  obtain ⟨s, hf, hh⟩ : ∃ s,
      State.new.follow? ⟨[⟨100, .dead⟩], []⟩ anyAction
        [.spawn (.handle (serverBuild 1 true) 1000), .poll 0, .claim 1, .turn, .pass 100, .turn,
          .spawn (.handle (serverBuild 2 false) 1000), .poll 1, .claim 2, .turn, .pass 500,
          .turn] = some s ∧
      s.history =
        [(0, .marked), (0, .serverBuilt 1), (0, .requested 1 false), (0, .began 1 false),
          (0, .startCalled 1), (100, .startReturned 1 .dead),
          (100, .ended 1 (.failed (.exited none))), (100, .serverBuilt 2),
          (100, .requested 2 false), (100, .began 2 false), (100, .startCalled 2),
          (600, .startReturned 2 .ready), (600, .published .serverUpdate),
          (600, .ended 2 .succeeded)] :=
    ⟨_, rfl, rfl⟩
  have hs := (run_follow? hf).reachable .new
  exact ⟨s, hs, changes_accounted hs (by simp [hh]), by simp [hh], by simp [hh]⟩

end DevServer.Restart
