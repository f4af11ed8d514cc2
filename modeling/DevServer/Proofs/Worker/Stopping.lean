import DevServer.Proofs.Worker.Lives

/-!
# Stopping a worker that prints

Somebody wants a worker to be stopped, and its monitor takes turn after turn (`Life.after`), each with
what the process offers then. A wish is the last thing that a monitor takes, so it comes to it at the
first turn at which there is nothing to read (`Life.stops_at_silence`). The turns until then are as many
as the worker goes on printing (`Prints`), and a worker that prints at every turn is never stopped
(`Life.stop_put_off`).
-/

namespace DevServer.Worker

open Process (Reading)

/-- Whether there is a wish to stop the worker. -/
def Life.IsUnwanted (l : Life) : Prop := l.stopAsked = true ∨ l.dropped = true

/-- There is something to read at every turn before the `n`-th, as the output has neither ended nor
failed before. -/
def Prints (m : Monitor) (output : ℕ → Option Reading) (n : ℕ) : Prop :=
  ∀ k < n, m.reading = true ∧ (∀ j < k, ∃ text, output j = some (.line text)) ∧
    (output k).isSome = true

theorem Prints.of_succ {m : Monitor} {output : ℕ → Option Reading} {n : ℕ}
    (h : Prints m output (n + 1)) : Prints m output n :=
  fun k hk => h k (Nat.lt_succ_of_lt hk)

/-- What a monitor comes to when there is nothing to read: the exit of the process goes before the
wish. -/
def silencePhase : Option (Option Int) → Phase
  | some code => .dead code
  | none => .terminating

namespace Life

/-- A worker after some turns of its monitor, with what the process offers at each of them. -/
def after (timeoutMs : ℕ) (l : Life) (output : ℕ → Option Reading) (exit : ℕ → Option (Option Int)) :
    ℕ → Life
  | 0 => l
  | n + 1 =>
    let l' := l.after timeoutMs output exit n
    (l'.move timeoutMs (.turn (output n) (exit n))).getD l'

section
variable {timeoutMs : ℕ} {l : Life}

/-! ## One turn -/

theorem move_turn_of_output {r : Reading} (hup : l.monitor.phase.isUp = true)
    (hr : l.monitor.reading = true) (exit : Option (Option Int)) :
    l.move timeoutMs (.turn (some r) exit) =
      some { l with monitor := l.monitor.take (.output r) } := by
  have hchoose : l.monitor.choose (l.offer (some r) exit) = some (.output r) := by
    unfold Monitor.choose
    cases hp : l.monitor.phase <;> simp_all [Phase.isUp, offer]
  rw [move, Monitor.turn, hchoose]
  rfl

theorem move_turn_of_silence {output : Option Reading} (hw : l.IsUnwanted)
    (hup : l.monitor.phase.isUp = true) (hs : l.monitor.reading = false ∨ output = none)
    (exit : Option (Option Int)) : l.move timeoutMs (.turn output exit) =
      some { l with monitor := { l.monitor with phase := silencePhase exit } } := by
  have hstop : (l.offer output exit).stop = true := by simpa [offer, IsUnwanted] using hw
  have hread : (if l.monitor.reading then output else none) = none := by
    rcases hs with hs | hs <;> simp [hs]
  have hchoose : l.monitor.choose (l.offer output exit) =
      some ((exit.map .exit).getD .stop) := by
    unfold Monitor.choose
    cases hp : l.monitor.phase <;> cases exit <;> simp_all [Phase.isUp, offer]
  rw [move, Monitor.turn, hchoose]
  cases exit <;> rfl

/-- A worker stays up while its output is read. -/
theorem isUp_take_output {m : Monitor} (hup : m.phase.isUp = true) (r : Reading) :
    (m.take (.output r)).phase.isUp = true := by
  cases r with
  | fault | ended => exact hup
  | line text =>
    rw [Monitor.take, Monitor.takeLine]
    split
    · split
      · rfl
      · exact hup
    · exact hup

theorem reading_take_line (m : Monitor) (text : String) :
    (m.take (.output (.line text))).reading = m.reading := by
  simp only [Monitor.take, Monitor.takeLine]
  repeat' split
  all_goals rfl

/-! ## All turns -/

variable {output : ℕ → Option Reading} {exit : ℕ → Option (Option Int)} {n : ℕ}

theorem after_succ_of_move {l' : Life}
    (h : (l.after timeoutMs output exit n).move timeoutMs (.turn (output n) (exit n)) = some l') :
    l.after timeoutMs output exit (n + 1) = l' := by
  rw [after, h, Option.getD_some]

/-- Turns leave the wish as it is. -/
theorem isUnwanted_after (hw : l.IsUnwanted) (n : ℕ) :
    (l.after timeoutMs output exit n).IsUnwanted := by
  induction n with
  | zero => exact hw
  | succ n ih =>
    rw [after]
    cases h : (l.after timeoutMs output exit n).move timeoutMs (.turn (output n) (exit n)) with
    | none => exact ih
    | some l' =>
      simp only [move, Option.map_eq_some_iff] at h
      obtain ⟨m, -, rfl⟩ := h
      exact ih

/-- A worker that prints at every turn is up and, while all it prints is lines, still read. -/
theorem after_of_prints (hup : l.monitor.phase.isUp = true) (h : Prints l.monitor output n) :
    (l.after timeoutMs output exit n).monitor.phase.isUp = true ∧
    ((l.after timeoutMs output exit n).monitor.reading = true ↔
      l.monitor.reading = true ∧ ∀ k < n, ∃ text, output k = some (.line text)) := by
  induction n with
  | zero => exact ⟨hup, by simp [after]⟩
  | succ n ih =>
    obtain ⟨hupn, hreadn⟩ := ih h.of_succ
    obtain ⟨hread, hlines, hsome⟩ := h n (Nat.lt_succ_self n)
    obtain ⟨r, hr⟩ := Option.isSome_iff_exists.mp hsome
    have hmove : (l.after timeoutMs output exit n).move timeoutMs (.turn (some r) (exit n)) = _ :=
      move_turn_of_output hupn (hreadn.mpr ⟨hread, hlines⟩) (exit n)
    rw [← hr] at hmove
    rw [after_succ_of_move hmove]
    refine ⟨isUp_take_output hupn r, ?_⟩
    rw [Nat.forall_lt_succ_right, hr]
    cases r with
    | line text => simpa [reading_take_line, hlines] using hreadn
    | fault | ended => simp [Monitor.take]

/-- The first silence ends the reading, whatever was printed before. -/
theorem after_of_silence (hw : l.IsUnwanted) (hup : l.monitor.phase.isUp = true)
    (h : Prints l.monitor output n) (hn : ¬Prints l.monitor output (n + 1)) :
    (l.after timeoutMs output exit (n + 1)).monitor.phase = silencePhase (exit n) := by
  obtain ⟨hupn, hreadn⟩ := @after_of_prints timeoutMs l output exit n hup h
  have hsilence : (l.after timeoutMs output exit n).monitor.reading = false ∨ output n = none := by
    by_contra hcon
    rw [not_or, Bool.not_eq_false, ← ne_eq, Option.ne_none_iff_isSome] at hcon
    refine hn fun k hk => ?_
    rcases Nat.lt_succ_iff_lt_or_eq.mp hk with hk | rfl
    · exact h k hk
    · exact ⟨(hreadn.mp hcon.1).1, (hreadn.mp hcon.1).2, hcon.2⟩
  rw [after_succ_of_move (move_turn_of_silence (isUnwanted_after hw n) hupn hsilence (exit n))]

theorem not_isUp_silencePhase (exit : Option (Option Int)) :
    (silencePhase exit).isUp = false := by
  cases exit <;> rfl

/-- A worker that is being stopped or dead does not come up again. -/
theorem isUp_of_after_succ (h : (l.after timeoutMs output exit (n + 1)).monitor.phase.isUp = true) :
    (l.after timeoutMs output exit n).monitor.phase.isUp = true := by
  rw [after] at h
  cases hmove : (l.after timeoutMs output exit n).move timeoutMs (.turn (output n) (exit n)) with
  | none => rwa [hmove] at h
  | some l' =>
    rw [hmove, Option.getD_some] at h
    simp only [move, Monitor.turn, Option.map_map, Option.map_eq_some_iff] at hmove
    obtain ⟨i, hi, rfl⟩ := hmove
    rcases Monitor.isUp_of_choose hi with hup | ⟨-, code, rfl⟩
    · exact hup
    · cases h

theorem isUp_after_iff (hw : l.IsUnwanted) (hup : l.monitor.phase.isUp = true) :
    (l.after timeoutMs output exit n).monitor.phase.isUp = true ↔ Prints l.monitor output n := by
  refine ⟨fun h => ?_, fun h => (after_of_prints hup h).1⟩
  induction n with
  | zero => exact fun k hk => absurd hk (Nat.not_lt_zero k)
  | succ n ih =>
    by_contra hn
    rw [after_of_silence hw hup (ih (isUp_of_after_succ h)) hn, not_isUp_silencePhase] at h
    cases h

/-- **A worker is stopped when it is silent**: it stays up for as many turns as it prints at, one after
the other, and the first turn without output begins to stop it unless its process has exited. -/
theorem stops_at_silence (hw : l.IsUnwanted) (hup : l.monitor.phase.isUp = true)
    (timeoutMs : ℕ) (output : ℕ → Option Reading) (exit : ℕ → Option (Option Int)) (n : ℕ) :
    ((l.after timeoutMs output exit n).monitor.phase.isUp = true ↔ Prints l.monitor output n) ∧
    (Prints l.monitor output n → ¬Prints l.monitor output (n + 1) →
      (l.after timeoutMs output exit (n + 1)).monitor.phase = silencePhase (exit n)) :=
  ⟨isUp_after_iff hw hup, after_of_silence hw hup⟩

end

/-- A worker that has started and was then asked to stop. -/
def asked : Life := ⟨⟨.ready, true, 1⟩, .started, true, false⟩

theorem reachable_asked (timeoutMs : ℕ) : Reachable timeoutMs asked := by
  have hready : Life.new.monitor.take (.output (.line "\x7b\"type\":\"ready\"\x7d")) =
      ⟨.ready, true, 1⟩ := by cbv
  have hread : Lived timeoutMs _ _ :=
    Lived.new.next (.took (some (.line "\x7b\"type\":\"ready\"\x7d")) none rfl)
  rw [hready] at hread
  exact reachable_iff.mpr ⟨_, (hread.next (.looked false rfl)).next (.stopAsked rfl)⟩

/-- Two lines put the stop off by two turns. -/
theorem stops_at_silence_third :
    asked.IsUnwanted ∧ asked.monitor.phase.isUp = true ∧
    (asked.after 5000 (fun k => if k < 2 then some (.line "page") else none) (fun _ => none)
      2).monitor.phase.isUp = true ∧
    (asked.after 5000 (fun k => if k < 2 then some (.line "page") else none) (fun _ => none)
      3).monitor.phase = .terminating := by
  have hw : asked.IsUnwanted := .inl rfl
  have h := stops_at_silence hw rfl 5000 (fun k => if k < 2 then some (.line "page") else none)
    (fun _ => none) 2
  have hprints : Prints asked.monitor (fun k => if k < 2 then some (.line "page") else none) 2 :=
    fun k hk => ⟨rfl, fun j hj => ⟨"page", if_pos (hj.trans hk)⟩, by simp [hk]⟩
  have hsilent : ¬Prints asked.monitor (fun k => if k < 2 then some (.line "page") else none) 3 :=
    fun h => absurd (h 2 (by decide)).2.2 (by decide)
  exact ⟨hw, rfl, h.1.mpr hprints, h.2 hprints hsilent⟩

/-- No number of turns is enough to stop a worker that prints at every turn. -/
theorem stop_put_off : ¬∃ bound : ℕ, ∀ (timeoutMs : ℕ) (l : Life), Reachable timeoutMs l →
    l.IsUnwanted → l.monitor.phase.isUp = true →
    ∀ (output : ℕ → Option Reading) (exit : ℕ → Option (Option Int)),
      ∃ n ≤ bound, (l.after timeoutMs output exit n).monitor.phase.isUp = false := by
  rintro ⟨bound, h⟩
  obtain ⟨n, -, hn⟩ := h 5000 asked (reachable_asked 5000) (.inl rfl) rfl
    (fun _ => some (.line "page")) (fun _ => none)
  have hprints : Prints asked.monitor (fun _ => some (.line "page")) n :=
    fun k _ => ⟨rfl, fun j _ => ⟨"page", rfl⟩, rfl⟩
  rw [(isUp_after_iff (.inl rfl) rfl).mpr hprints] at hn
  cases hn

end Life

end DevServer.Worker
