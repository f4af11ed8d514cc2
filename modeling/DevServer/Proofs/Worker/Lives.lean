import DevServer.Worker.Lifecycle
import Mathlib

/-!
# Lives of workers

`Does timeoutMs l x l'` lists what can happen to a worker, and `Lived timeoutMs h l` is a life from its
beginning with all that has happened in `h`. The history tells in which phase the worker is
(`phaseAfter`) and how far the starting call has come (`Told`), and every life is as its history tells
it (`Life.Follows`): the call returns a handle just when a ready message was read before the call found
its time over, and when it fails the process has exited (`Lived.orderly`).
-/

namespace DevServer.Worker

/-- What happens to a worker. -/
inductive Entry where
  /-- The monitor takes something. -/
  | took (i : Input)
  /-- The starting call looks whether it can return; `expired` says that its time is over. -/
  | looked (expired : Bool)
  | stopAsked
  | dropped
  deriving DecidableEq, Repr

namespace Entry

/-- Whether a ready message is read. -/
def isReady : Entry → Bool
  | took (.output (.line text)) => Message.ofLine? text == some .ready
  | _ => false

/-- The code with which the process has exited. -/
def exit? : Entry → Option (Option Int)
  | took (.exit code) => some code
  | _ => none

theorem exit?_eq_some {x : Entry} {code : Option Int} (h : x.exit? = some code) :
    x = .took (.exit code) := by
  unfold exit? at h
  split at h <;> cases h
  rfl

end Entry

/-- What can happen to a worker, and what becomes of it. -/
inductive Does (timeoutMs : Nat) (l : Life) : Entry → Life → Prop where
  | took (output : Option Process.Reading) (exit : Option (Option Int)) {i : Input}
    (hi : l.monitor.choose (l.offer output exit) = some i) :
    Does timeoutMs l (.took i) { l with monitor := l.monitor.take i }
  | looked (expired : Bool) (hd : l.dropped = false) :
    Does timeoutMs l (.looked expired) (l.look timeoutMs expired)
  | stopAsked (hh : l.isHeld = true) : Does timeoutMs l .stopAsked l.askStop
  | dropped (hh : l.hasHandle = true) : Does timeoutMs l .dropped { l with dropped := true }

/-- A life from its beginning, with all that has happened. -/
inductive Lived (timeoutMs : Nat) : List Entry → Life → Prop where
  | new : Lived timeoutMs [] .new
  | next {h : List Entry} {l l' : Life} {x : Entry} (hl : Lived timeoutMs h l)
    (hx : Does timeoutMs l x l') : Lived timeoutMs (h ++ [x]) l'

namespace Life

variable {timeoutMs : Nat} {l l' : Life}

/-- What a move adds to the history; a monitor that has nothing to take adds nothing. -/
def entryOf (l : Life) : Move → Option Entry
  | .turn output exit => (l.monitor.choose (l.offer output exit)).map .took
  | .look expired => some (.looked expired)
  | .stop => some .stopAsked
  | .drop => some .dropped

/-- **The moves of a life** are what can happen. -/
theorem move_iff {m : Move} :
    l.move timeoutMs m = some l' ↔ ∃ x, l.entryOf m = some x ∧ Does timeoutMs l x l' := by
  cases m with
  | turn output exit =>
    simp only [move, Monitor.turn, entryOf, Option.map_map, Option.map_eq_some_iff]
    constructor
    · rintro ⟨i, hi, rfl⟩
      exact ⟨_, ⟨i, hi, rfl⟩, .took output exit hi⟩
    · rintro ⟨_, ⟨i, hi, rfl⟩, hd⟩
      cases hd
      exact ⟨i, hi, rfl⟩
  | look expired =>
    rw [move, Option.ite_none_left_eq_some]
    constructor
    · rintro ⟨hd, ⟨⟩⟩
      exact ⟨_, rfl, .looked expired (by simpa using hd)⟩
    · rintro ⟨_, ⟨⟩, hx⟩
      cases hx with
      | looked _ hd => exact ⟨by simp [hd], rfl⟩
  | stop =>
    rw [move, Option.ite_none_right_eq_some]
    constructor
    · rintro ⟨hh, ⟨⟩⟩
      exact ⟨_, rfl, .stopAsked hh⟩
    · rintro ⟨_, ⟨⟩, hx⟩
      cases hx with
      | stopAsked hh => exact ⟨hh, rfl⟩
  | drop =>
    rw [move, Option.ite_none_right_eq_some]
    constructor
    · rintro ⟨hh, ⟨⟩⟩
      exact ⟨_, rfl, .dropped hh⟩
    · rintro ⟨_, ⟨⟩, hx⟩
      cases hx with
      | dropped hh => exact ⟨hh, rfl⟩

theorem exists_entry {x : Entry} (h : Does timeoutMs l x l') : ∃ m, l.entryOf m = some x := by
  cases h with
  | took output exit hi => exact ⟨.turn output exit, by rw [entryOf, hi]; rfl⟩
  | looked expired => exact ⟨.look expired, rfl⟩
  | stopAsked => exact ⟨.stop, rfl⟩
  | dropped => exact ⟨.drop, rfl⟩

theorem reachable_iff : Reachable timeoutMs l ↔ ∃ h, Lived timeoutMs h l := by
  constructor
  · intro h
    induction h with
    | new => exact ⟨[], .new⟩
    | move m _ hm ih =>
      obtain ⟨h, hl⟩ := ih
      obtain ⟨x, -, hx⟩ := move_iff.mp hm
      exact ⟨h ++ [x], hl.next hx⟩
  · rintro ⟨h, hl⟩
    induction hl with
    | new => exact .new
    | next _ hx ih =>
      obtain ⟨m, hm⟩ := exists_entry hx
      exact .move m ih (move_iff.mpr ⟨_, hm, hx⟩)

end Life

/-! ## Phases -/

/-- The phase that a history tells. -/
def phaseAfter (h : List Entry) : Phase :=
  match h.findSome? Entry.exit? with
  | some code => .dead code
  | none =>
    if .took .stop ∈ h then .terminating
    else if h.any Entry.isReady then .ready
    else .starting

namespace Phase

/-- A worker whose output is read. -/
def isUp : Phase → Bool
  | starting | ready => true
  | terminating | dead _ => false

/-- The phase after one thing more. -/
def after (phase : Phase) (x : Entry) : Phase :=
  match phase, x.exit? with
  | dead code, _ => dead code
  | _, some code => dead code
  | terminating, none => terminating
  | starting, none =>
    if x = .took .stop then terminating else if x.isReady then ready else starting
  | ready, none => if x = .took .stop then terminating else ready

theorem after_eq_or_lt (phase : Phase) (x : Entry) :
    phase = phase.after x ∨ phase.rank < (phase.after x).rank := by
  cases phase <;> cases hx : x.exit? <;> simp only [after, hx, rank] <;> grind [rank]

/-- What the monitor does not take leaves the phase alone. -/
theorem after_of_not_took {phase : Phase} {x : Entry} (hx : ∀ i, x ≠ .took i) :
    phase.after x = phase := by
  cases x with
  | took i => exact absurd rfl (hx i)
  | looked | stopAsked | dropped => cases phase <;> rfl

end Phase

theorem phaseAfter_concat (h : List Entry) (x : Entry) :
    phaseAfter (h ++ [x]) = (phaseAfter h).after x := by
  unfold phaseAfter
  cases he : h.findSome? Entry.exit? with
  | some code => simp [List.findSome?_append, he, Phase.after]
  | none =>
    by_cases hs : Entry.took .stop ∈ h
    · cases hx : x.exit? <;> simp [List.findSome?_append, he, hx, hs, Phase.after]
    · by_cases hr : h.any Entry.isReady = true <;> cases hx : x.exit? <;>
        simp [List.findSome?_append, he, hx, hs, hr, Phase.after, @eq_comm _ x (.took .stop)]

/-- Phases are passed through in their order, and the last one stays. -/
theorem phaseAfter_append (h h' : List Entry) : phaseAfter h = phaseAfter (h ++ h') ∨
    (phaseAfter h).rank < (phaseAfter (h ++ h')).rank := by
  induction h' generalizing h with
  | nil => exact .inl (by rw [List.append_nil])
  | cons x xs ih =>
    have hstep := (phaseAfter h).after_eq_or_lt x
    have hrest := ih (h ++ [x])
    rw [List.append_assoc, List.singleton_append, phaseAfter_concat] at hrest
    rcases hrest with he | hlt
    · rwa [← he]
    · rcases hstep with he | hlt'
      · rw [← he] at hlt
        exact .inr hlt
      · exact .inr (Nat.lt_trans hlt' hlt)

theorem any_isReady_of_phaseAfter {h : List Entry} (hp : (phaseAfter h).isUp = true) :
    h.any Entry.isReady = true ↔ phaseAfter h = .ready := by
  unfold phaseAfter at hp ⊢
  split at hp
  · cases hp
  · split at hp
    · cases hp
    · split <;> simp_all

theorem phaseAfter_ne_starting {h : List Entry} (hr : h.any Entry.isReady = true) :
    phaseAfter h ≠ .starting := by
  unfold phaseAfter
  rw [hr]
  repeat' split
  all_goals simp_all

theorem exit_mem_of_phaseAfter {h : List Entry} {code : Option Int}
    (hp : phaseAfter h = .dead code) : .took (.exit code) ∈ h := by
  unfold phaseAfter at hp
  split at hp
  · next he =>
    cases hp
    obtain ⟨x, hx, hcode⟩ := List.exists_of_findSome?_eq_some he
    rwa [← Entry.exit?_eq_some hcode]
  · repeat' split at hp
    all_goals cases hp

/-! ## Before and after the ready message -/

/-- What happens before a ready message is read. -/
def beforeReady (h : List Entry) : List Entry := h.takeWhile fun x => !x.isReady

/-- What happens after the first ready message. -/
def sinceReady (h : List Entry) : List Entry := (h.dropWhile fun x => !x.isReady).tail

theorem beforeReady_cons (x : Entry) (h : List Entry) :
    beforeReady (x :: h) = if x.isReady then [] else x :: beforeReady h := by
  cases hx : x.isReady <;> simp [beforeReady, hx]

theorem sinceReady_cons (x : Entry) (h : List Entry) :
    sinceReady (x :: h) = if x.isReady then h else sinceReady h := by
  cases hx : x.isReady <;> simp [sinceReady, hx]

theorem looked_mem_beforeReady {h : List Entry} {x : Entry} {expired : Bool} :
    .looked expired ∈ beforeReady (h ++ [x]) ↔ .looked expired ∈ beforeReady h ∨
      (x = .looked expired ∧ h.any Entry.isReady = false) := by
  induction h with
  | nil =>
    rw [List.nil_append, beforeReady_cons]
    split
    · next hx =>
      have hne : x ≠ .looked expired := by rintro rfl; cases hx
      simp [beforeReady, hne]
    · simp [beforeReady, eq_comm]
  | cons a h ih =>
    rw [List.cons_append, beforeReady_cons, beforeReady_cons, List.any_cons]
    cases ha : a.isReady with
    | true => simp
    | false => simp [ih, or_assoc]

theorem looked_mem_sinceReady {h : List Entry} {x : Entry} {expired : Bool} :
    .looked expired ∈ sinceReady (h ++ [x]) ↔ .looked expired ∈ sinceReady h ∨
      (x = .looked expired ∧ h.any Entry.isReady = true) := by
  induction h with
  | nil =>
    rw [List.nil_append, sinceReady_cons]
    split <;> simp [sinceReady]
  | cons a h ih =>
    rw [List.cons_append, sinceReady_cons, sinceReady_cons, List.any_cons]
    cases ha : a.isReady with
    | true => simp [eq_comm]
    | false => simp [ih]

theorem sinceReady_of_not_any {h : List Entry} (hr : h.any Entry.isReady = false) :
    sinceReady h = [] := by
  induction h with
  | nil => rfl
  | cons a h ih =>
    rw [List.any_cons, Bool.or_eq_false_iff] at hr
    rw [sinceReady_cons, hr.1, if_neg Bool.false_ne_true, ih hr.2]

/-! ## What the monitor takes -/

namespace Monitor

variable {m : Monitor} {o : Offer}

/-- Output and a wish to stop count only while the worker is up. -/
theorem isUp_of_choose {i : Input} (h : m.choose o = some i) :
    m.phase.isUp = true ∨ (m.phase = .terminating ∧ ∃ code, i = .exit code) := by
  unfold choose at h
  split at h
  · cases h
  · next hp =>
    obtain ⟨code, -, rfl⟩ := Option.map_eq_some_iff.mp h
    exact .inr ⟨hp, code, rfl⟩
  all_goals next hp => exact .inl (by rw [hp]; rfl)

theorem phase_take {i : Input} (h : m.choose o = some i) :
    (m.take i).phase = m.phase.after (.took i) := by
  rcases isUp_of_choose h with hp | ⟨hp, code, rfl⟩
  · cases i with
    | exit | stop => cases hm : m.phase <;> simp_all [take, Phase.after, Entry.exit?, Phase.isUp]
    | output r =>
      cases r with
      | line text =>
        simp only [take, takeLine]
        cases hm : m.phase <;> cases hr : Message.ofLine? text <;>
          simp_all [Phase.after, Entry.exit?, Phase.isUp, Entry.isReady]
      | fault | ended =>
        cases hm : m.phase <;> simp_all [take, Phase.after, Entry.exit?, Phase.isUp, Entry.isReady]
  · rw [hp]
    rfl

/-- Readiness is signalled when a ready message is read while the worker starts. -/
theorem signals_take (m : Monitor) (i : Input) : (m.take i).signals =
    m.signals + if (Entry.took i).isReady = true ∧ m.phase = .starting then 1 else 0 := by
  cases i with
  | exit | stop => simp [take, Entry.isReady]
  | output r =>
    cases r with
    | fault | ended => simp [take, Entry.isReady]
    | line text =>
      cases ht : Message.ofLine? text with
      | none => simp [take, takeLine, Entry.isReady, ht]
      | some message =>
        cases message
        by_cases hm : m.phase = .starting <;> simp [take, takeLine, Entry.isReady, ht, hm]

/-- Later ready messages change nothing. -/
theorem take_of_isReady {i : Input} (hi : (Entry.took i).isReady = true)
    (hm : m.phase ≠ .starting) : m.take i = m := by
  unfold Entry.isReady at hi
  split at hi
  · next text he =>
    cases he
    simp [take, takeLine, eq_of_beq hi, hm]
  · cases hi

end Monitor

/-! ## The starting call -/

/-- How far the starting call has come, as a history tells it. -/
inductive Told (timeoutMs : Nat) (h : List Entry) : Attempt → Prop where
  | waiting (hn : .looked true ∉ h) (hs : ∀ expired, .looked expired ∉ sinceReady h) :
    Told timeoutMs h .waiting
  | overdue (hb : .looked true ∈ beforeReady h) : Told timeoutMs h .overdue
  | started {expired : Bool} (hb : .looked true ∉ beforeReady h)
    (hs : .looked expired ∈ sinceReady h) : Told timeoutMs h .started
  | exited {code : Option Int} (hr : h.any Entry.isReady = false)
    (hp : phaseAfter h = .dead code) : Told timeoutMs h (.failed (.exited code))
  | notReady {code : Option Int} (hb : .looked true ∈ beforeReady h)
    (hp : phaseAfter h = .dead code) : Told timeoutMs h (.failed (.notReady timeoutMs))

theorem any_of_mem_sinceReady {h : List Entry} {x : Entry} (hx : x ∈ sinceReady h) :
    h.any Entry.isReady = true := by
  cases hr : h.any Entry.isReady with
  | true => rfl
  | false => rw [sinceReady_of_not_any hr] at hx; cases hx

/-- What else happens does not change how far the call has come. -/
theorem Told.concat {timeoutMs : Nat} {h : List Entry} {attempt : Attempt} {x : Entry}
    (ht : Told timeoutMs h attempt) (hx : attempt = .waiting → ∀ expired, x ≠ .looked expired)
    (hr : x.isReady = true → (phaseAfter h).isUp = true) : Told timeoutMs (h ++ [x]) attempt := by
  cases ht with
  | waiting hn hs =>
    have hx := hx rfl
    refine .waiting ?_ fun expired => ?_
    · simp [hn, (hx true).symm]
    · simp [looked_mem_sinceReady, hs, hx expired]
  | overdue hb => exact .overdue (looked_mem_beforeReady.mpr (.inl hb))
  | started hb hs =>
    refine .started ?_ (looked_mem_sinceReady.mpr (.inl hs))
    simp [looked_mem_beforeReady, hb, any_of_mem_sinceReady hs]
  | exited hn hp =>
    have hx : x.isReady = false := by
      cases hx : x.isReady with
      | false => rfl
      | true => have := hr hx; rw [hp] at this; cases this
    refine .exited ?_ (by rw [phaseAfter_concat, hp]; rfl)
    rw [List.any_append, hn, List.any_cons, hx, List.any_nil]
    rfl
  | notReady hb hp =>
    exact .notReady (looked_mem_beforeReady.mpr (.inl hb))
      (by rw [phaseAfter_concat, hp]; rfl)

/-- A life as its history tells it. -/
structure Life.Follows (timeoutMs : Nat) (h : List Entry) (l : Life) : Prop where
  phase : l.monitor.phase = phaseAfter h
  signals : l.monitor.signals = if h.any Entry.isReady then 1 else 0
  told : Told timeoutMs h l.attempt
  asked : l.attempt = .overdue → l.stopAsked = true

namespace Life

variable {timeoutMs : Nat} {h : List Entry} {l l' : Life}

@[simp] theorem monitor_askStop (l : Life) : l.askStop.monitor = l.monitor := by
  unfold askStop; split <;> rfl

@[simp] theorem attempt_askStop (l : Life) : l.askStop.attempt = l.attempt := by
  unfold askStop; split <;> rfl

theorem stopAsked_askStop (l : Life) :
    l.askStop.stopAsked = (l.stopAsked || !l.monitor.phase.isDead) := by
  unfold askStop; split <;> simp_all

@[simp] theorem monitor_look (l : Life) (timeoutMs : Nat) (expired : Bool) :
    (l.look timeoutMs expired).monitor = l.monitor := by
  unfold look
  repeat' split
  all_goals simp

theorem Follows.new : Follows timeoutMs [] .new :=
  ⟨rfl, rfl, .waiting (by simp) (by simp [sinceReady]), nofun⟩

theorem Follows.signals_pos_iff (hf : l.Follows timeoutMs h) :
    0 < l.monitor.signals ↔ h.any Entry.isReady = true := by
  rw [hf.signals]
  cases h.any Entry.isReady <;> simp

/-- What is not taken by the monitor leaves the phase and the signals. -/
theorem Follows.aside {x : Entry} (hf : l.Follows timeoutMs h) (hx : ∀ i, x ≠ .took i)
    (hm : l'.monitor = l.monitor) (ht : Told timeoutMs (h ++ [x]) l'.attempt)
    (ha : l'.attempt = .overdue → l'.stopAsked = true) : l'.Follows timeoutMs (h ++ [x]) := by
  have hr : x.isReady = false := by
    cases x with
    | took i => exact absurd rfl (hx i)
    | looked | stopAsked | dropped => rfl
  refine ⟨?_, ?_, ht, ha⟩
  · rw [hm, hf.phase, phaseAfter_concat, Phase.after_of_not_took hx]
  · rw [hm, hf.signals, List.any_append, List.any_cons, hr, List.any_nil, Bool.or_false,
      Bool.or_false]

theorem Follows.took {o : Offer} {i : Input} (hf : l.Follows timeoutMs h)
    (hi : l.monitor.choose o = some i) :
    Follows timeoutMs (h ++ [.took i]) { l with monitor := l.monitor.take i } := by
  have hup : (Entry.took i).isReady = true → (phaseAfter h).isUp = true := fun hr => by
    rcases Monitor.isUp_of_choose hi with hp | ⟨-, code, rfl⟩
    · rwa [← hf.phase]
    · cases hr
  refine ⟨?_, ?_, hf.told.concat (fun _ _ => nofun) hup, hf.asked⟩
  · rw [phaseAfter_concat, ← hf.phase]
    exact Monitor.phase_take hi
  · rw [Monitor.signals_take, hf.signals, List.any_append, List.any_cons, List.any_nil,
      Bool.or_false]
    cases hr : (Entry.took i).isReady with
    | false => simp
    | true =>
      have hany := any_isReady_of_phaseAfter (hup hr)
      have hst : phaseAfter h = .starting ∨ phaseAfter h = .ready := by
        cases hp : phaseAfter h <;> simp_all [Phase.isUp]
      rcases hst with hp | hp <;> simp [hany, hf.phase, hp]

theorem Follows.told_look (hf : l.Follows timeoutMs h) (expired : Bool) :
    Told timeoutMs (h ++ [.looked expired]) (l.look timeoutMs expired).attempt := by
  have ht := hf.told
  have hconcat (hn : l.attempt ≠ .waiting) : Told timeoutMs (h ++ [.looked expired]) l.attempt :=
    ht.concat (fun hw => absurd hw hn) nofun
  have hdead {code : Option Int} (hp : l.monitor.phase = .dead code) :
      phaseAfter (h ++ [.looked expired]) = .dead code := by
    rw [phaseAfter_concat, ← hf.phase, hp]
    rfl
  unfold look
  split
  · next ha => exact hconcat (by simp [ha])
  · next ha => exact hconcat (by simp [ha])
  · next ha =>
    rw [ha] at ht
    obtain ⟨hn, hs⟩ | _ := ht
    have hb : .looked true ∉ beforeReady h := fun hb => hn ((List.takeWhile_prefix _).subset hb)
    split
    · next hsig =>
      have hr := hf.signals_pos_iff.mp hsig
      exact .started (by simp [looked_mem_beforeReady, hb, hr])
        (looked_mem_sinceReady.mpr (.inr ⟨rfl, hr⟩))
    · next hsig =>
      have hr : h.any Entry.isReady = false := by simpa [hf.signals_pos_iff] using hsig
      split
      · next code hp => exact .exited (by rw [List.any_append, hr]; rfl) (hdead hp)
      all_goals
        cases expired with
        | true => exact .overdue (looked_mem_beforeReady.mpr (.inr ⟨rfl, hr⟩))
        | false =>
          simp only [Bool.false_eq_true, if_false, ha]
          exact .waiting (by simp [hn]) (by simp [looked_mem_sinceReady, hs, hr])
  · next ha =>
    rw [ha] at ht
    obtain _ | hb := ht
    have hb : .looked true ∈ beforeReady (h ++ [.looked expired]) :=
      looked_mem_beforeReady.mpr (.inl hb)
    split
    · next hd =>
      obtain ⟨code, hp⟩ : ∃ code, l.monitor.phase = .dead code := by
        cases hp : l.monitor.phase <;> simp_all [Phase.isDead]
      exact .notReady hb (hdead hp)
    · rw [ha]
      exact .overdue hb

theorem Follows.asked_look (hf : l.Follows timeoutMs h) (expired : Bool)
    (ha : (l.look timeoutMs expired).attempt = .overdue) :
    (l.look timeoutMs expired).stopAsked = true := by
  revert ha
  unfold look
  split
  · next ha => simp [ha]
  · next ha => simp [ha]
  · next ha =>
    split
    · simp
    · split
      · simp
      all_goals
        next hp => split <;> simp [ha, hp, stopAsked_askStop, Phase.isDead]
  · next ha =>
    split
    · simp
    · exact hf.asked

/-- What happens is what the history then tells. -/
theorem Follows.next {x : Entry} (hf : l.Follows timeoutMs h) (hx : Does timeoutMs l x l') :
    l'.Follows timeoutMs (h ++ [x]) := by
  cases hx with
  | took _ _ hi => exact hf.took hi
  | looked expired hd =>
    exact hf.aside nofun (monitor_look ..) (hf.told_look expired) (hf.asked_look expired)
  | stopAsked hh =>
    refine hf.aside nofun (monitor_askStop l) ?_ ?_
    · rw [attempt_askStop]
      exact hf.told.concat (fun _ => nofun) nofun
    · rw [attempt_askStop, stopAsked_askStop]
      exact fun ha => by rw [hf.asked ha]; rfl
  | dropped hh => exact hf.aside nofun rfl (hf.told.concat (fun _ => nofun) nofun) hf.asked

end Life

theorem Lived.follows {timeoutMs : Nat} {h : List Entry} {l : Life} (hl : Lived timeoutMs h l) :
    l.Follows timeoutMs h := by
  induction hl with
  | new => exact .new
  | next _ hx ih => exact ih.next hx

/-! ## Lives as a whole -/

/-- What a worker whose history is `h` can rely on. -/
structure Orderly (timeoutMs : Nat) (h : List Entry) (l : Life) : Prop where
  /-- The phase only moves forward, and never once the worker is dead. -/
  forward : ∀ h' l', Lived timeoutMs (h ++ h') l' →
    l.monitor.phase = l'.monitor.phase ∨ l.monitor.phase.rank < l'.monitor.phase.rank
  /-- Readiness is signalled once at most. -/
  once : l.monitor.signals = if h.any Entry.isReady then 1 else 0
  /-- It is signalled when a ready message is read while the worker starts. -/
  signals : ∀ x l', Does timeoutMs l x l' → l'.monitor.signals =
    l.monitor.signals + if x.isReady = true ∧ l.monitor.phase = .starting then 1 else 0
  /-- Later ready messages change nothing. -/
  again : ∀ x l', Does timeoutMs l x l' → x.isReady = true → h.any Entry.isReady = true → l' = l
  /-- The starting call returns a handle just when it looks after a ready message was read, and has
  not found its time over before that. -/
  started_iff : l.attempt = .started ↔
    .looked true ∉ beforeReady h ∧ ∃ expired, .looked expired ∈ sinceReady h
  /-- When the starting call fails, the process has exited. -/
  failed : ∀ fault, l.attempt = .failed fault → ∃ code, .took (.exit code) ∈ h ∧
    l.monitor.phase = .dead code ∧
    ((fault = .exited code ∧ h.any Entry.isReady = false) ∨
      (fault = .notReady timeoutMs ∧ .looked true ∈ beforeReady h))
  /-- A call that looks at a dead worker returns. -/
  returns : ∀ expired l', Does timeoutMs l (.looked expired) l' → l.monitor.phase.isDead = true →
    l'.attempt = .started ∨ ∃ fault, l'.attempt = .failed fault
  /-- The monitor can stop a worker whose call is over its time, which was asked to stop, or whose
  handle is gone. -/
  stops : l.attempt = .overdue ∨ l.stopAsked = true ∨ l.dropped = true →
    l.monitor.phase.isUp = true →
    ∃ l', Does timeoutMs l (.took .stop) l' ∧ l'.monitor.phase = .terminating
  /-- The monitor of a worker that is being stopped waits for its exit alone. -/
  ends : l.monitor.phase = .terminating →
    (∀ code, ∃ l', Does timeoutMs l (.took (.exit code)) l' ∧ l'.monitor.phase = .dead code) ∧
    ∀ i l', Does timeoutMs l (.took i) l' → ∃ code, i = .exit code

namespace Told

variable {timeoutMs : Nat} {h : List Entry} {attempt : Attempt}

theorem started_iff (ht : Told timeoutMs h attempt) : attempt = .started ↔
    .looked true ∉ beforeReady h ∧ ∃ expired, .looked expired ∈ sinceReady h := by
  cases ht with
  | waiting hn hs => simp [hs]
  | overdue hb => simp [hb]
  | started hb hs => exact iff_of_true rfl ⟨hb, _, hs⟩
  | exited hr hp => simp [sinceReady_of_not_any hr]
  | notReady hb hp => simp [hb]

theorem failed {fault : Fault} (ht : Told timeoutMs h (.failed fault)) :
    ∃ code, phaseAfter h = .dead code ∧
      ((fault = .exited code ∧ h.any Entry.isReady = false) ∨
        (fault = .notReady timeoutMs ∧ .looked true ∈ beforeReady h)) := by
  cases ht with
  | exited hr hp => exact ⟨_, hp, .inl ⟨rfl, hr⟩⟩
  | notReady hb hp => exact ⟨_, hp, .inr ⟨rfl, hb⟩⟩

end Told

namespace Life

variable {timeoutMs : Nat} {l l' : Life}

theorem look_of_isDead (hd : l.monitor.phase.isDead = true) (expired : Bool) :
    (l.look timeoutMs expired).attempt = .started ∨
      ∃ fault, (l.look timeoutMs expired).attempt = .failed fault := by
  unfold look
  split
  · next ha => exact .inl ha
  · next ha => exact .inr ⟨_, ha⟩
  · split
    · exact .inl rfl
    · split
      · exact .inr ⟨_, rfl⟩
      all_goals next hp => rw [hp] at hd; cases hd
  · rw [if_pos hd]
    exact .inr ⟨_, rfl⟩

theorem signals_of_does {x : Entry} (hx : Does timeoutMs l x l') : l'.monitor.signals =
    l.monitor.signals + if x.isReady = true ∧ l.monitor.phase = .starting then 1 else 0 := by
  cases hx with
  | took _ _ hi => exact Monitor.signals_take ..
  | looked | stopAsked | dropped => simp [Entry.isReady]

theorem exists_stop (hs : l.stopAsked = true ∨ l.dropped = true)
    (hp : l.monitor.phase.isUp = true) :
    ∃ l', Does timeoutMs l (.took .stop) l' ∧ l'.monitor.phase = .terminating := by
  refine ⟨_, .took none none ?_, rfl⟩
  have hstop : (l.offer none none).stop = true := by simpa [offer] using hs
  unfold Monitor.choose
  cases hm : l.monitor.phase <;> simp_all [Phase.isUp, offer]

theorem exists_exit (hp : l.monitor.phase = .terminating) (code : Option Int) :
    ∃ l', Does timeoutMs l (.took (.exit code)) l' ∧ l'.monitor.phase = .dead code :=
  ⟨_, .took none (some code) (by simp [Monitor.choose, hp, offer]), rfl⟩

end Life

/-- **Workers live orderly**, whatever their processes do and whenever the starting call finds its
time over: every state that a worker can get to has a history that follows its moves, and all that
the history tells holds. -/
theorem Lived.orderly {timeoutMs : Nat} {l : Life} :
    (Life.Reachable timeoutMs l ↔ ∃ h, Lived timeoutMs h l) ∧
    ∀ h, Lived timeoutMs h l → Orderly timeoutMs h l ∧ ∀ (m : Move) (l' : Life),
      l.move timeoutMs m = some l' ↔ ∃ x, l.entryOf m = some x ∧ Does timeoutMs l x l' := by
  refine ⟨Life.reachable_iff, fun h hl => ⟨?_, fun m l' => Life.move_iff⟩⟩
  have hf : l.Follows timeoutMs h := hl.follows
  constructor
  case forward =>
    intro h' l' hl'
    rw [hf.phase, hl'.follows.phase]
    exact phaseAfter_append h h'
  case once => exact hf.signals
  case signals => exact fun _ _ hx => Life.signals_of_does hx
  case again =>
    intro x l' hx hr hany
    cases hx with
    | took _ _ hi => rw [Monitor.take_of_isReady hr (hf.phase ▸ phaseAfter_ne_starting hany)]
    | looked | stopAsked | dropped => cases hr
  case started_iff => exact hf.told.started_iff
  case failed =>
    intro fault ha
    obtain ⟨code, hp, hfault⟩ := Told.failed (ha ▸ hf.told)
    exact ⟨code, exit_mem_of_phaseAfter hp, hf.phase.trans hp, hfault⟩
  case returns =>
    intro expired l' hx hd
    cases hx with
    | looked => exact Life.look_of_isDead hd expired
  case stops =>
    exact fun hs hp => Life.exists_stop (hs.imp_left hf.asked |>.elim .inl id) hp
  case ends =>
    refine fun hp => ⟨Life.exists_exit hp, fun i l' hx => ?_⟩
    cases hx with
    | took _ _ hi =>
      rcases Monitor.isUp_of_choose hi with hup | ⟨-, hcode⟩
      · rw [hp] at hup
        cases hup
      · exact hcode

/-- A worker says that it is ready when the call has found its time over. -/
def tooLate : List Entry :=
  [.took (.output (.line "Compiling")), .looked true,
    .took (.output (.line "\x7b\"type\":\"ready\"\x7d")), .took .stop, .took (.exit none),
    .looked false]

/-- The call fails, and the process has exited. -/
theorem orderly_tooLate :
    Life.Reachable 5000 ⟨⟨.dead none, true, 1⟩, .failed (.notReady 5000), true, false⟩ ∧
    Lived 5000 tooLate ⟨⟨.dead none, true, 1⟩, .failed (.notReady 5000), true, false⟩ ∧
    Orderly 5000 tooLate ⟨⟨.dead none, true, 1⟩, .failed (.notReady 5000), true, false⟩ := by
  have hplain : Life.new.monitor.take (.output (.line "Compiling")) = .new := by cbv
  have hready : Monitor.new.take (.output (.line "\x7b\"type\":\"ready\"\x7d")) =
      ⟨.ready, true, 1⟩ := by cbv
  have hread : Lived 5000 _ _ := Lived.new.next (.took (some (.line "Compiling")) none rfl)
  rw [hplain] at hread
  have hlate := (hread.next (.looked true rfl)).next
    (.took (some (.line "\x7b\"type\":\"ready\"\x7d")) none rfl)
  rw [Life.monitor_look, hready] at hlate
  have hl := ((hlate.next (.took none none rfl)).next (.took none (some none) rfl)).next
    (.looked false rfl)
  exact ⟨Lived.orderly.1.mpr ⟨_, hl⟩, hl, (Lived.orderly.2 _ hl).1⟩

end DevServer.Worker
