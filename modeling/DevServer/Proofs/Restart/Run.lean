import DevServer.Proofs.Restart.Moves
import DevServer.Restart.Schedule

/-!
# Runs

`Run script ok s s'`: steps lead from `s` to `s'`, each as `ok` allows it. Any step at all may be
taken in a run under `anyAction`; under `State.prompt` the clock moves only while nothing else can go
on, and never past a time that somebody waits for.
-/

namespace DevServer.Restart

inductive Run (script : Script) (ok : State → Action → Bool) (s : State) : State → Prop where
  | refl : Run script ok s s
  | next {s' s'' : State} {a : Action} : Run script ok s s' → ok s' a = true →
      step script s' a = some s'' → Run script ok s s''

def anyAction (_ : State) (_ : Action) : Bool := true

/-- Whether a prompt run can take an action. -/
def State.prompt (script : Script) (s : State) : Action → Bool
  | .pass ms =>
    (s.move? script).isNone && s.deadlines.all fun due => due ≤ s.now || s.now + ms ≤ due
  | _ => true

section
variable {script : Script} {ok : State → Action → Bool} {s s' s'' : State}

theorem Run.single {a : Action} (ha : ok s a = true) (h : step script s a = some s') :
    Run script ok s s' := .next .refl ha h

theorem Run.trans (h1 : Run script ok s s') (h2 : Run script ok s' s'') : Run script ok s s'' := by
  induction h2 with
  | refl => exact h1
  | next _ ha hs ih => exact ih.next ha hs

theorem Run.mono {ok' : State → Action → Bool} (h : ∀ s a, ok s a = true → ok' s a = true)
    (hr : Run script ok s s') : Run script ok' s s' := by
  induction hr with
  | refl => exact .refl
  | next _ ha hs ih => exact ih.next (h _ _ ha) hs

theorem Run.reachable (h : Run script ok s s') (hs : Reachable script s) : Reachable script s' := by
  induction h with
  | refl => exact hs
  | next _ _ hs ih => exact ih.step hs

theorem Run.evolves (h : Run script ok s s') : Evolves script s s' := by
  induction h with
  | refl => exact .refl s
  | next _ _ hs ih => exact ih.trans (evolves_step hs)

/-- The state after some actions, if all of them are allowed and can happen. -/
def State.follow? (script : Script) (ok : State → Action → Bool) (s : State) :
    List Action → Option State
  | [] => some s
  | a :: as => if ok s a then (step script s a).bind (·.follow? script ok as) else none

theorem run_follow? {as : List Action} (h : s.follow? script ok as = some s') :
    Run script ok s s' := by
  induction as generalizing s with
  | nil => cases h; exact .refl
  | cons a as ih =>
    simp only [State.follow?] at h
    split at h
    · next ha =>
      obtain ⟨s₁, h1, h2⟩ := Option.bind_eq_some_iff.mp h
      exact (Run.single ha h1).trans (ih h2)
    · cases h

end

end DevServer.Restart
