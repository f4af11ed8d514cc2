import DevServer.Build.Pipeline

/-!
# Moves of a pipeline

`Does p a now m p' a'` lists what a pipeline can do (`move_iff`) and keeps an account of the changes
beside it: what the watcher has reported, and for each batch the events that were recorded for it.
`Ran` is a run from the beginning with its account, and every state that can be reached is the end
of one (`reachable_iff`).
-/

namespace DevServer.Build

/-- What has become of the changes that the watcher has reported. -/
structure Account where
  /-- What the watcher has reported, in order. -/
  reported : List FileEvent
  /-- The batches in order, each with the events that were recorded since the batch before. -/
  rounds : List (List FileEvent × List Change)
  /-- What has been recorded since the last batch. -/
  since : List FileEvent

namespace Account

def empty : Account := ⟨[], [], []⟩

/-- All events that were recorded, in order. -/
def recorded (a : Account) : List FileEvent := a.rounds.flatMap Prod.fst ++ a.since

/-- What the builds were begun with: nothing for the first, and then a batch each. -/
def batches (a : Account) : List (List Change) := [] :: a.rounds.map Prod.snd

/-- The watcher has reported an event. -/
def report (a : Account) (e : FileEvent) : Account := { a with reported := a.reported ++ [e] }

/-- An event has been recorded. -/
def record (a : Account) (e : FileEvent) : Account := { a with since := a.since ++ [e] }

/-- A batch has been taken. -/
def take (a : Account) (changes : List Change) : Account :=
  { a with rounds := a.rounds ++ [(a.since, changes)], since := [] }

@[simp] theorem recorded_report (a : Account) (e : FileEvent) :
    (a.report e).recorded = a.recorded := rfl

@[simp] theorem recorded_record (a : Account) (e : FileEvent) :
    (a.record e).recorded = a.recorded ++ [e] := by simp [recorded, record]

@[simp] theorem recorded_take (a : Account) (changes : List Change) :
    (a.take changes).recorded = a.recorded := by simp [recorded, take]

@[simp] theorem batches_report (a : Account) (e : FileEvent) :
    (a.report e).batches = a.batches := rfl

@[simp] theorem batches_record (a : Account) (e : FileEvent) :
    (a.record e).batches = a.batches := rfl

@[simp] theorem batches_take (a : Account) (changes : List Change) :
    (a.take changes).batches = a.batches ++ [changes] := by simp [batches, take]

@[simp] theorem length_batches (a : Account) : a.batches.length = a.rounds.length + 1 := by
  simp [batches]

end Account

namespace Pipeline

/-- What a pipeline does in a move, and what that adds to the account. -/
inductive Does (p : Pipeline) (a : Account) (now : Nat) : Move → Pipeline → Account → Prop where
  | report (e : FileEvent) :
    Does p a now (.report e) { p with queue := p.queue ++ [e] } (a.report e)
  | stop {timer : Nat} (hw : p.activity = .waiting timer) (hs : p.shuttingDown = true) :
    Does p a now .turn { p with activity := .stopped } a
  | record {timer : Nat} {e : FileEvent} {queue : List FileEvent}
    (hw : p.activity = .waiting timer) (hs : p.shuttingDown = false) (hq : p.queue = e :: queue) :
    Does p a now .turn ({ p with queue, debouncer := p.debouncer.record now e }.rest now)
      (a.record e)
  | wait {timer : Nat} (hw : p.activity = .waiting timer) (hs : p.shuttingDown = false)
    (hq : p.queue = []) (ht : timer ≤ now) (hd : p.debouncer.take? now = none) :
    Does p a now .turn (p.rest now) a
  | begin {timer : Nat} {changes : List Change} {debouncer : Debouncer}
    (hw : p.activity = .waiting timer) (hs : p.shuttingDown = false) (hq : p.queue = [])
    (ht : timer ≤ now) (hd : p.debouncer.take? now = some (changes, debouncer)) :
    Does p a now .turn
      { p with debouncer, activity := .building (p.builds + 1) changes, builds := p.builds + 1 }
      (a.take changes)
  | send {build : Nat} {changes : List Change} (o : Outcome)
    (hb : p.activity = .building build changes) (hl : p.listening = true) :
    Does p a now (.finish o) ({ p with sent := p.sent ++ [p.event build changes o] }.rest now) a
  | quit {build : Nat} {changes : List Change} (o : Outcome)
    (hb : p.activity = .building build changes) (hl : p.listening = false) :
    Does p a now (.finish o) { p with activity := .stopped } a
  | shutDown : Does p a now .shutDown { p with shuttingDown := true } a
  | hangUp : Does p a now .hangUp { p with listening := false } a

variable {p p' : Pipeline} {a a' : Account} {now : Nat} {m : Move}

theorem Does.move (h : Does p a now m p' a') : p.move now m = some p' := by
  cases h with
  | report | shutDown | hangUp => rfl
  | stop hw hs => simp [Pipeline.move, turn, hw, hs]
  | record hw hs hq => simp [Pipeline.move, turn, hw, hs, hq]
  | wait hw hs hq ht hd => simp [Pipeline.move, turn, hw, hs, hq, hd, Nat.not_lt.mpr ht]
  | begin hw hs hq ht hd => simp [Pipeline.move, turn, hw, hs, hq, hd, Nat.not_lt.mpr ht]
  | send o hb hl => simp [Pipeline.move, finish, hb, hl]
  | quit o hb hl => simp [Pipeline.move, finish, hb, hl]

theorem exists_does_turn (a : Account) (h : p.turn now = some p') :
    ∃ a', Does p a now .turn p' a' := by
  unfold turn at h
  split at h
  case h_1 | h_2 => cases h
  case h_3 timer hw =>
    split at h
    case isTrue hs => cases h; exact ⟨_, .stop hw hs⟩
    case isFalse hs =>
      have hs : p.shuttingDown = false := by simpa using hs
      split at h
      case h_1 e queue hq => cases h; exact ⟨_, .record hw hs hq⟩
      case h_2 hq =>
        split at h
        case isTrue => cases h
        case isFalse ht =>
          have ht : timer ≤ now := Nat.not_lt.mp ht
          split at h
          case h_1 hd => cases h; exact ⟨_, .wait hw hs hq ht hd⟩
          case h_2 hd => cases h; exact ⟨_, .begin hw hs hq ht hd⟩

theorem exists_does_finish (a : Account) {o : Outcome} (h : p.finish now o = some p') :
    ∃ a', Does p a now (.finish o) p' a' := by
  unfold finish at h
  split at h
  case h_1 hb =>
    split at h
    case isTrue hl => cases h; exact ⟨_, .send o hb hl⟩
    case isFalse hl => cases h; exact ⟨_, .quit o hb (by simpa using hl)⟩
  case h_2 | h_3 => cases h

/-- **The moves of a pipeline** are those listed, whatever the account is. -/
theorem move_iff (a : Account) : p.move now m = some p' ↔ ∃ a', Does p a now m p' a' := by
  constructor
  · intro h
    cases m with
    | report e => cases h; exact ⟨_, .report e⟩
    | turn => exact exists_does_turn a h
    | finish o => exact exists_does_finish a h
    | shutDown => cases h; exact ⟨_, .shutDown⟩
    | hangUp => cases h; exact ⟨_, .hangUp⟩
  · rintro ⟨a', h⟩
    exact h.move

/-- A run from the beginning up to a time, with its account. -/
inductive Ran (target : Target) (window : Nat) : Nat → Pipeline → Account → Prop where
  | new (now : Nat) : Ran target window now (.new target window) .empty
  | move {now later : Nat} {p p' : Pipeline} {a a' : Account} {m : Move}
    (h : Ran target window now p a) (hle : now ≤ later) (hm : Does p a later m p' a') :
    Ran target window later p' a'

theorem reachable_iff {target : Target} {window : Nat} :
    Reachable target window now p ↔ ∃ a, Ran target window now p a := by
  constructor
  · intro h
    induction h with
    | new now => exact ⟨_, .new now⟩
    | move m _ hle hm ih =>
      obtain ⟨a, ha⟩ := ih
      obtain ⟨a', hd⟩ := (move_iff a).mp hm
      exact ⟨a', ha.move hle hd⟩
  · rintro ⟨a, h⟩
    induction h with
    | new now => exact .new now
    | move _ hle hm ih => exact .move _ ih hle hm.move

end Pipeline

end DevServer.Build
