import DevServer.Restart.Happening

/-!
# Reading a history

What a history says of restarts: the tickets in the order in which restarts were created
(`created`), began (`begun`), called for a worker (`starting`) and came to their end (`closed`; `ends`
has the times). `Each P h` says that every happening `x` of `h` satisfies `P past x`, where `past` is
what happened before `x`; `Orderly` is such a condition: restarts are created, begin and end one after
the other in the order of their tickets.
-/

namespace DevServer.Restart

namespace Happening

def created? : Happening → Option Nat
  | requested n false => some n
  | _ => none

def begun? : Happening → Option Nat
  | began n _ => some n
  | _ => none

def starting? : Happening → Option Nat
  | startCalled n => some n
  | _ => none

/-- The restart that comes to its end, with or without an outcome. -/
def closed? : Happening → Option Nat
  | ended n _ | abandoned n => some n
  | _ => none

/-- What a task does on its own account, without touching what tasks share. -/
def ofTask : Happening → Bool
  | published .serverUpdate => false
  | published (.clientBuilt _) | buildFailed _ _ | serverBuilt _ | serverBuildLost _ _
  | clientWaits _ | clientWaitFailed _ _ | clientSettled _ | loopFinished | taskEnded _ _ => true
  | requested _ _ | began _ _ | stopCalled _ _ | stopReturned _ _ _ | startCalled _
  | startReturned _ _ | ended _ _ | abandoned _ | marked | unmarked | shutdownCalled
  | workerDied _ => false

end Happening

/-- The tickets of the first `n` restarts. -/
def upTo (n : Nat) : List Nat := List.range' 1 n

@[simp] theorem upTo_zero : upTo 0 = [] := rfl

theorem upTo_succ (n : Nat) : upTo (n + 1) = upTo n ++ [n + 1] := by
  rw [upTo, upTo, List.range'_1_concat, Nat.add_comm 1 n]

@[simp] theorem mem_upTo {m n : Nat} : m ∈ upTo n ↔ 0 < m ∧ m ≤ n := by
  rw [upTo, List.mem_range'_1]; omega

@[simp] theorem length_upTo (n : Nat) : (upTo n).length = n := List.length_range'

namespace History

def created (h : History) : List Nat := h.filterMap (·.2.created?)

def begun (h : History) : List Nat := h.filterMap (·.2.begun?)

def starting (h : History) : List Nat := h.filterMap (·.2.starting?)

def closed (h : History) : List Nat := h.filterMap (·.2.closed?)

/-- The restarts that came to their end, with the times. -/
def ends (h : History) : List (Nat × Nat) := h.filterMap fun (t, x) => x.closed?.map (·, t)

variable {h k : History}

/-- Happenings that are stamped with one time. -/
theorem mem_stamp {t u : Nat} {x : Happening} {hs : List Happening} :
    (u, x) ∈ hs.map (t, ·) ↔ u = t ∧ x ∈ hs := by
  rw [List.mem_map]
  constructor
  · rintro ⟨y, hy, he⟩; cases he; exact ⟨rfl, hy⟩
  · rintro ⟨rfl, hx⟩; exact ⟨x, hx, rfl⟩

@[simp] theorem created_append : created (h ++ k) = h.created ++ k.created := List.filterMap_append

@[simp] theorem begun_append : begun (h ++ k) = h.begun ++ k.begun := List.filterMap_append

@[simp] theorem starting_append : starting (h ++ k) = h.starting ++ k.starting :=
  List.filterMap_append

@[simp] theorem closed_append : closed (h ++ k) = h.closed ++ k.closed := List.filterMap_append

@[simp] theorem ends_append : ends (h ++ k) = h.ends ++ k.ends := List.filterMap_append

section
variable {t : Nat} {x : Happening}

theorem created_concat : created (h ++ [(t, x)]) = h.created ++ x.created?.toList := by
  rw [created_append]; cases hx : x.created? <;> simp [created, hx]

theorem begun_concat : begun (h ++ [(t, x)]) = h.begun ++ x.begun?.toList := by
  rw [begun_append]; cases hx : x.begun? <;> simp [begun, hx]

theorem starting_concat : starting (h ++ [(t, x)]) = h.starting ++ x.starting?.toList := by
  rw [starting_append]; cases hx : x.starting? <;> simp [starting, hx]

theorem closed_concat : closed (h ++ [(t, x)]) = h.closed ++ x.closed?.toList := by
  rw [closed_append]; cases hx : x.closed? <;> simp [closed, hx]

end

theorem mem_ends {n t : Nat} :
    (n, t) ∈ h.ends ↔ (∃ c, (t, Happening.ended n c) ∈ h) ∨ (t, Happening.abandoned n) ∈ h := by
  simp only [ends, List.mem_filterMap, Option.map_eq_some_iff, Prod.mk.injEq]
  constructor
  · rintro ⟨⟨u, x⟩, hx, m, hm, rfl, rfl⟩
    cases x <;> simp [Happening.closed?] at hm <;> subst hm
    · exact .inl ⟨_, hx⟩
    · exact .inr hx
  · rintro (⟨c, hx⟩ | hx)
    · exact ⟨_, hx, n, rfl, rfl, rfl⟩
    · exact ⟨_, hx, n, rfl, rfl, rfl⟩

theorem mem_closed {n : Nat} : n ∈ h.closed ↔ ∃ t, (n, t) ∈ h.ends := by
  simp only [closed, ends, List.mem_filterMap, Option.map_eq_some_iff, Prod.mk.injEq]
  constructor
  · rintro ⟨⟨t, x⟩, hx, hn⟩; exact ⟨t, (t, x), hx, n, hn, rfl, rfl⟩
  · rintro ⟨t, ⟨u, x⟩, hx, m, hm, rfl, -⟩; exact ⟨(u, x), hx, hm⟩

/-! ## What held before each happening -/

/-- Every happening satisfies `P` of what happened before it. -/
def Each (P : History → Happening → Prop) (h : History) : Prop :=
  ∀ past t x later, h = past ++ (t, x) :: later → P past x

/-- `Each` for what happens after `past`, happening by happening. -/
def EachAfter (P : History → Happening → Prop) (past : History) : History → Prop
  | [] => True
  | (t, x) :: k => P past x ∧ EachAfter P (past ++ [(t, x)]) k

variable {P : History → Happening → Prop}

theorem each_nil : Each P [] := by
  intro past t x later h; simp at h

theorem each_concat {t : Nat} {x : Happening} : Each P (h ++ [(t, x)]) ↔ Each P h ∧ P h x := by
  constructor
  · intro he
    refine ⟨fun past u y later hs => he past u y (later ++ [(t, x)]) ?_, he h t x [] rfl⟩
    rw [hs]; simp
  · rintro ⟨he, hx⟩ past u y later hs
    rcases List.eq_nil_or_concat later with rfl | ⟨l, z, rfl⟩
    · obtain ⟨rfl, hy⟩ := List.append_inj' hs rfl
      cases hy
      exact hx
    · rw [List.concat_eq_append, ← List.cons_append, ← List.append_assoc] at hs
      exact he past u y l (List.append_inj' hs rfl).1

theorem each_append : Each P (h ++ k) ↔ Each P h ∧ EachAfter P h k := by
  induction k generalizing h with
  | nil => simp [EachAfter]
  | cons e k ih =>
    obtain ⟨t, x⟩ := e
    rw [List.append_cons, ih, each_concat, EachAfter, and_assoc]

theorem each_of_eachAfter (hk : EachAfter P [] k) : Each P k :=
  (each_append (h := [])).mpr ⟨each_nil, hk⟩

/-- Happenings that are stamped with one time satisfy what each satisfies of any past. -/
theorem eachAfter_stamp {t : Nat} {hs : List Happening} (hx : ∀ x ∈ hs, ∀ past, P past x) :
    EachAfter P h (hs.map (t, ·)) := by
  induction hs generalizing h with
  | nil => trivial
  | cons x hs ih =>
    exact ⟨hx x (List.mem_cons_self ..) h, ih fun y hy => hx y (List.mem_cons_of_mem _ hy)⟩

/-! ## What has happened last -/

/-- Something that satisfies `P` has happened, and nothing that satisfies `Q` since. -/
def Since (P Q : Happening → Prop) (h : History) : Prop :=
  ∃ a u x b, h = a ++ (u, x) :: b ∧ P x ∧ ∀ v y, (v, y) ∈ b → ¬Q y

theorem since_concat {P Q : Happening → Prop} {t : Nat} {x : Happening} :
    Since P Q (h ++ [(t, x)]) ↔ P x ∨ ¬Q x ∧ Since P Q h := by
  constructor
  · rintro ⟨a, u, y, b, hh, hy, hb⟩
    rcases List.eq_nil_or_concat b with rfl | ⟨b, z, rfl⟩
    · cases (List.append_inj' hh rfl).2
      exact .inl hy
    · rw [List.concat_eq_append] at hb hh
      rw [← List.cons_append, ← List.append_assoc a] at hh
      obtain ⟨hh', hz⟩ := List.append_inj' hh rfl
      cases hz
      refine .inr ⟨hb t x (by simp), a, u, y, b, hh', hy, fun v z hz => hb v z ?_⟩
      exact List.mem_append_left _ hz
  · rintro (hx | ⟨hx, a, u, y, b, rfl, hy, hb⟩)
    · exact ⟨h, t, x, [], rfl, hx, nofun⟩
    · refine ⟨a, u, y, b ++ [(t, x)], List.append_assoc .., hy, fun v z hz => ?_⟩
      rcases List.mem_append.mp hz with hz | hz
      · exact hb v z hz
      · cases List.mem_singleton.mp hz
        exact hx

/-! ## The order of restarts -/

/-- Restarts are created, begin and end in the order of their tickets: each is created when all
before it have begun, begins when all before it have ended, and a request is given the ticket of the
one restart that is still to begin. -/
def Orderly (past : History) : Happening → Prop
  | .requested n joined =>
    0 < n ∧ past.begun = upTo (n - 1) ∧ past.starting ⊆ upTo (n - 1) ∧
      past.created = if joined then upTo n else upTo (n - 1)
  | .began n _ =>
    0 < n ∧ past.created = upTo n ∧ past.begun = upTo (n - 1) ∧ past.closed = upTo (n - 1)
  | .startCalled n => 0 < n ∧ past.begun = upTo n ∧ past.closed = upTo (n - 1)
  | .ended n c =>
    0 < n ∧ past.begun = upTo n ∧ past.closed = upTo (n - 1) ∧ (c ≠ .skipped → n ∈ past.starting)
  | .abandoned n => 0 < n ∧ past.begun = upTo n ∧ past.closed = upTo (n - 1) ∧ n ∈ past.starting
  | _ => True

/-- A restart ends after it has begun, and after all restarts before it. -/
theorem Orderly.of_closed? {x : Happening} {n : Nat} (h : Orderly k x) (hx : x.closed? = some n) :
    0 < n ∧ k.begun = upTo n ∧ k.closed = upTo (n - 1) := by
  cases x <;> cases hx
  · obtain ⟨hpos, hb, ho, -⟩ := h
    exact ⟨hpos, hb, ho⟩
  · obtain ⟨hpos, hb, ho, -⟩ := h
    exact ⟨hpos, hb, ho⟩

end History

end DevServer.Restart
