import DevServer.Proofs.Restart.Order

/-!
# What becomes of a restart, and when

`h.Settles n e o` says that the restart `n` came to its end at the time `e`, and that whoever waits
for it learns `o`. The tracker knows the fate of a restart if and only if the history does
(`Fated`), the times of a history never go back (`Timely`), and every restart before `n` has come to
its end when `n` does (`ends_before`).
-/

namespace DevServer.Restart

/-- What becomes of a restart when this happens. -/
def Happening.fate? : Happening → Option (Nat × Fate)
  | ended n k => some (n, .ended k.outcome)
  | abandoned n => some (n, .abandoned)
  | _ => none

/-- The restart `n` comes to its end at the time `e`, and whoever waits for it learns `o`. -/
def History.Settles (h : History) (n e : Nat) (o : Outcome) : Prop :=
  ∃ x f, (e, x) ∈ h ∧ x.fate? = some (n, f) ∧ f.settled? = some o

theorem Happening.closed?_of_fate? {x : Happening} {n : Nat} {f : Fate} (h : x.fate? = some (n, f)) :
    x.closed? = some n := by
  cases x <;> cases h <;> rfl

/-! ## The tracker's fates -/

namespace Tracker

variable {t : Tracker} {n m : Nat} {f : Fate}

theorem fates_begin (t : Tracker) (n : Nat) : (t.begin n).fates = t.fates := by
  unfold begin; split <;> rfl

theorem fate?_begin (t : Tracker) (n m : Nat) : (t.begin n).fate? m = t.fate? m := by
  rw [fate?, fate?, fates_begin]

/-- Asking for a restart settles nothing. -/
theorem fate?_request (hf : f ≠ .pending) : t.request.fate? n = some f ↔ t.fate? n = some f := by
  unfold request
  split
  · rfl
  · simp only [fate?]
    split
    · rfl
    · by_cases hl : n - 1 < t.fates.length
      · rw [List.getElem?_append_left hl]
      · have hl : t.fates.length ≤ n - 1 := Nat.le_of_not_lt hl
        rw [List.getElem?_append_right hl, List.getElem?_eq_none hl]
        refine ⟨fun h => ?_, nofun⟩
        exact absurd (List.mem_singleton.mp (List.mem_of_getElem? h)) hf

theorem fate?_set {t' : Tracker} (h : t'.fates = t.fates.set (n - 1) f) (hpos : 0 < n)
    (hn : n ≤ t.created) : t'.fate? m = if m = n then some f else t.fate? m := by
  simp only [fate?, h, List.getElem?_set]
  have hlen : n - 1 < t.fates.length := by
    have : n ≤ t.fates.length := hn
    omega
  by_cases hm : m = n
  · subst hm
    simp [hlen, Nat.ne_of_gt hpos]
  · by_cases h0 : m = 0
    · simp [h0]; omega
    · have : n - 1 ≠ m - 1 := by omega
      simp [hm, h0, this]

end Tracker

/-- A move leaves the fates alone or, last thing, decides one. -/
theorem Move.fates {script : Script} {c c' : Shared} {hs : List Happening}
    (h : Move script c hs c') :
    ((∀ x ∈ hs, x.fate? = none) ∧
      ∀ n f, f ≠ .pending → (c'.tracker.fate? n = some f ↔ c.tracker.fate? n = some f)) ∨
    ∃ pre x n f, hs = pre ++ [x] ∧ (∀ y ∈ pre, y.fate? = none) ∧ x.fate? = some (n, f) ∧
      c'.tracker.fates = c.tracker.fates.set (n - 1) f := by
  cases h with
  | task hx =>
    refine .inl ⟨?_, fun _ _ _ => Iff.rfl⟩
    rename_i x
    simp only [List.mem_singleton, forall_eq]
    cases x <;> first | rfl | cases hx
  | request => exact .inl ⟨by simp [Happening.fate?], fun n f hf => Tracker.fate?_request hf⟩
  | mark | unmark | die | shutDown | stopLast | stopped | startNext =>
    exact .inl ⟨by simp [Happening.fate?], fun _ _ _ => Iff.rfl⟩
  | pass | claim | giveUp | nothingToStop => exact .inl ⟨nofun, fun _ _ _ => Iff.rfl⟩
  | @stopPrevious m | @startFirst m =>
    refine .inl ⟨by simp [Happening.fate?], fun n f _ => ?_⟩
    show (c.tracker.begin m).fate? n = _ ↔ _
    rw [Tracker.fate?_begin]
  | @skip n =>
    refine .inr ⟨[_], _, _, _, rfl, by simp [Happening.fate?], rfl, ?_⟩
    show (c.tracker.begin n).fates.set _ _ = _
    rw [Tracker.fates_begin]
  | install =>
    refine .inr ⟨_, _, _, _, rfl, ?_, rfl, rfl⟩
    unfold Shared.news
    split <;> simp [Happening.fate?]
  | fail => exact .inr ⟨[_], _, _, _, rfl, by simp [Happening.fate?], rfl, rfl⟩
  | panic => exact .inr ⟨[_], _, _, _, rfl, by simp [Happening.fate?], rfl, rfl⟩

/-- The tracker knows the fate of a restart if and only if the history does. -/
def Fated (h : History) (c : Shared) : Prop :=
  ∀ n f, f ≠ .pending → (c.tracker.fate? n = some f ↔ ∃ t x, (t, x) ∈ h ∧ x.fate? = some (n, f))

namespace Fated

variable {script : Script} {h : History} {c c' : Shared} {hs : List Happening}

/-- Nothing becomes of any restart. -/
theorem quiet (hf : Fated h c) {k : History} (hk : ∀ t x, (t, x) ∈ k → x.fate? = none)
    (hc : ∀ n f, f ≠ .pending → (c'.tracker.fate? n = some f ↔ c.tracker.fate? n = some f)) :
    Fated (h ++ k) c' := by
  intro n f hp
  rw [hc n f hp, hf n f hp]
  constructor
  · rintro ⟨t, y, hy, hyf⟩
    exact ⟨t, y, List.mem_append_left _ hy, hyf⟩
  · rintro ⟨t, y, hy, hyf⟩
    rcases List.mem_append.mp hy with hy | hy
    · exact ⟨t, y, hy, hyf⟩
    · rw [hk t y hy] at hyf; cases hyf

/-- A restart that has not come to its end before does so. -/
theorem settle (hf : Fated h c) {t n : Nat} {x : Happening} {f : Fate} (hx : x.fate? = some (n, f))
    (hc : c'.tracker.fates = c.tracker.fates.set (n - 1) f) (hpos : 0 < n)
    (hn : n ≤ c.tracker.created) (hov : n ∉ h.closed) : Fated (h ++ [(t, x)]) c' := by
  intro m g hg
  rw [Tracker.fate?_set hc hpos hn]
  by_cases hm : m = n
  · subst hm
    rw [if_pos rfl]
    constructor
    · rintro ⟨⟩
      exact ⟨t, x, by simp, hx⟩
    · rintro ⟨u, y, hy, hyg⟩
      rcases List.mem_append.mp hy with hy | hy
      · refine absurd (List.mem_filterMap.mpr ⟨(u, y), hy, ?_⟩) hov
        exact Happening.closed?_of_fate? hyg
      · cases List.mem_singleton.mp hy
        rw [hx] at hyg; cases hyg; rfl
  · rw [if_neg hm, hf m g hg]
    constructor
    · rintro ⟨u, y, hy, hyg⟩
      exact ⟨u, y, List.mem_append_left _ hy, hyg⟩
    · rintro ⟨u, y, hy, hyg⟩
      rcases List.mem_append.mp hy with hy | hy
      · exact ⟨u, y, hy, hyg⟩
      · cases List.mem_singleton.mp hy
        rw [hx] at hyg; cases hyg
        exact absurd rfl hm

theorem move (hf : Fated h c) (ho : Ordered (h ++ hs.map (c.now, ·)) c')
    (hm : Move script c hs c') : Fated (h ++ hs.map (c.now, ·)) c' := by
  rcases hm.fates with ⟨hx, hc⟩ | ⟨pre, x, n, f, rfl, hpre, hx, hc⟩
  · exact hf.quiet (fun t y hy => hx y (History.mem_stamp.mp hy).2) hc
  · rw [List.map_append, List.map_singleton, ← List.append_assoc] at ho ⊢
    have hover := Happening.closed?_of_fate? hx
    obtain ⟨hpos, hb, hov⟩ := (History.each_concat.mp ho.tally.each).2.of_closed? hover
    have hn : n ≤ c.tracker.created := by
      have hxb : x.begun? = none := by cases x <;> first | rfl | cases hover
      have hbn : upTo n = upTo c'.tracker.started := by
        rw [← ho.tally.begun, History.begun_concat, hb, hxb]; exact (List.append_nil _).symm
      have hlen := congrArg List.length hbn
      have hcount := ho.queue.count
      have hcr : c'.tracker.created = c.tracker.created := by
        rw [Tracker.created, hc, List.length_set]; rfl
      simp at hlen
      omega
    have hpre' : Fated (h ++ pre.map (c.now, ·)) c :=
      hf.quiet (fun t y hy => hpre y (History.mem_stamp.mp hy).2) fun _ _ _ => Iff.rfl
    refine hpre'.settle hx hc hpos hn ?_
    rw [hov, mem_upTo]
    omega

theorem moves {k : History} (hf : Fated h c) (ho : Ordered h c) (hc : c.Held)
    (hm : Moves script c k c') : Fated (h ++ k) c' := by
  induction hm with
  | refl => simpa using hf
  | move hms hm ih =>
    have ho' := (ho.moves hc hms).move (hc.moves hms) hm
    rw [← List.append_assoc]
    exact ih.move ho' hm

theorem new : Fated [] State.new.shared := by
  intro n f _
  simp [State.new, State.shared, Tracker.new, Tracker.fate?]

end Fated

theorem Reachable.fated {script : Script} {s : State} (h : Reachable script s) :
    Fated s.history s.shared := .moves .new .new .new h.moves

/-! ## Times -/

/-- The times of a history never go back, and none is after `now`. -/
structure Timely (h : History) (now : Nat) : Prop where
  sorted : h.Pairwise (·.1 ≤ ·.1)
  past : ∀ t x, (t, x) ∈ h → t ≤ now

theorem Timely.append {h : History} {now : Nat} (ht : Timely h now) (hs : List Happening) :
    Timely (h ++ hs.map (now, ·)) now where
  sorted := by
    refine List.pairwise_append.mpr ⟨ht.sorted, ?_, fun a ha b hb => ?_⟩
    · rw [List.pairwise_map]
      exact List.pairwise_of_forall fun _ _ => Nat.le_refl _
    · rw [(History.mem_stamp.mp hb).1]
      exact ht.past a.1 a.2 ha
  past := fun t x hm => by
    rcases List.mem_append.mp hm with hm | hm
    · exact ht.past t x hm
    · exact Nat.le_of_eq (History.mem_stamp.mp hm).1

/-- The clock does not go back. -/
theorem Move.now_le {script : Script} {c c' : Shared} {hs : List Happening}
    (h : Move script c hs c') : c.now ≤ c'.now := by
  cases h with
  | pass ms => exact Nat.le_add_right _ _
  | _ => exact Nat.le_refl _

theorem Moves.timely {script : Script} {h k : History} {c c' : Shared} (ht : Timely h c.now)
    (hm : Moves script c k c') : c.now ≤ c'.now ∧ Timely (h ++ k) c'.now := by
  induction hm with
  | refl => exact ⟨Nat.le_refl _, by simpa using ht⟩
  | @move _ _ _ hs _ hm ih =>
    obtain ⟨hle, ih⟩ := ih
    have hn := hm.now_le
    have ha := ih.append hs
    refine ⟨Nat.le_trans hle hn, ?_⟩
    rw [← List.append_assoc]
    exact ⟨ha.sorted, fun t x hx => Nat.le_trans (ha.past t x hx) hn⟩

theorem Moves.le_time {script : Script} {k : History} {c c' : Shared} (hm : Moves script c k c') :
    ∀ t x, (t, x) ∈ k → c.now ≤ t := by
  induction hm with
  | refl => exact nofun
  | move hms _ ih =>
    intro t x hx
    rcases List.mem_append.mp hx with hx | hx
    · exact ih t x hx
    · rw [(History.mem_stamp.mp hx).1]
      exact (hms.timely ⟨.nil, nofun⟩).1

theorem Reachable.timely {script : Script} {s : State} (h : Reachable script s) :
    Timely s.history s.now :=
  (Moves.timely (h := []) ⟨.nil, nofun⟩ h.moves).2

/-! ## What waiting gives -/

section
variable {script : Script} {s : State} {n e : Nat} {o : Outcome}

/-- Waiting for a restart gives something if and only if it has come to its end, and then its fate. -/
theorem Reachable.settled?_iff (hs : Reachable script s) :
    s.tracker.settled? n = some o ↔ ∃ e, s.history.Settles n e o := by
  have hne {f : Fate} (hf : f.settled? = some o) : f ≠ .pending := by rintro rfl; cases hf
  rw [Tracker.settled?, Option.bind_eq_some_iff]
  constructor
  · rintro ⟨f, hf, hfo⟩
    obtain ⟨t, x, hx, hxf⟩ := (hs.fated n f (hne hfo)).mp hf
    exact ⟨t, x, f, hx, hxf, hfo⟩
  · rintro ⟨e, x, f, hx, hxf, hfo⟩
    exact ⟨f, (hs.fated n f (hne hfo)).mpr ⟨e, x, hx, hxf⟩, hfo⟩

/-- A ticket shows an outcome if and only if its restart has ended with one. -/
theorem Reachable.isSettled_iff (hs : Reachable script s) :
    s.tracker.isSettled n = true ↔ ∃ t k, (t, .ended n k) ∈ s.history := by
  rw [Tracker.isSettled, Tracker.status, bne_iff_ne]
  constructor
  · intro h
    rcases hf : s.tracker.fate? n with _ | _ | o | _ <;> rw [hf] at h
    · exact absurd rfl h
    · exact absurd rfl h
    · obtain ⟨t, x, hx, hxf⟩ := (hs.fated n (.ended o) nofun).mp hf
      cases x <;> cases hxf
      exact ⟨t, _, hx⟩
    · exact absurd rfl h
  · rintro ⟨t, k, hx⟩
    have hf : s.tracker.fate? n = some (.ended k.outcome) :=
      (hs.fated n (.ended k.outcome) nofun).mpr ⟨t, _, hx, rfl⟩
    rw [hf]; nofun

/-- A restart comes to its end after all restarts before it. -/
theorem Reachable.ends_before (hs : Reachable script s) (h : s.history.Settles n e o) :
    ∀ m ∈ upTo n, ∃ u, u ≤ e ∧ (m, u) ∈ s.history.ends := by
  intro m hm
  obtain ⟨x, f, hx, hxf, -⟩ := h
  have hover := Happening.closed?_of_fate? hxf
  obtain ⟨past, later, hh⟩ := List.append_of_mem hx
  obtain ⟨hpos, -, hov⟩ := (hs.ordered.tally.each past e x later hh).of_closed? hover
  by_cases hmn : m = n
  · subst hmn
    exact ⟨e, Nat.le_refl e, List.mem_filterMap.mpr ⟨(e, x), hx, by simp [hover]⟩⟩
  · have hmo : m ∈ History.closed past := by
      rw [hov]; rw [mem_upTo] at hm ⊢; omega
    obtain ⟨u, hu⟩ := History.mem_closed.mp hmo
    refine ⟨u, ?_, by rw [hh, History.ends_append]; exact List.mem_append_left _ hu⟩
    obtain ⟨⟨v, y⟩, hy, hyu⟩ := List.mem_filterMap.mp hu
    obtain ⟨i, -, hi⟩ := Option.map_eq_some_iff.mp hyu
    cases hi
    have hsorted := hs.timely.sorted
    rw [hh] at hsorted
    exact (List.pairwise_append.mp hsorted).2.2 (u, y) hy (e, x) (by simp)

/-- A restart that has ended has begun. -/
theorem Reachable.begun_of_closed (hs : Reachable script s) {past later : History}
    (hh : s.history = past ++ later) (hn : n ∈ past.closed) : n ∈ past.begun := by
  obtain ⟨⟨t, x⟩, hx, hxn⟩ := List.mem_filterMap.mp hn
  obtain ⟨a, b, rfl⟩ := List.append_of_mem hx
  rw [List.append_assoc] at hh
  obtain ⟨hpos, hb, -⟩ := (hs.ordered.tally.each a t x _ hh).of_closed? hxn
  rw [History.begun_append, hb]
  exact List.mem_append_left _ (mem_upTo.mpr ⟨hpos, Nat.le_refl n⟩)

/-- Nothing before the end of a restart is its end. -/
theorem Reachable.not_closed_before (hs : Reachable script s) {past later : History} {t : Nat}
    {x : Happening} (hh : s.history = past ++ (t, x) :: later) (hx : x.closed? = some n) {u : Nat}
    {y : Happening} (hy : (u, y) ∈ past) : y.closed? ≠ some n := by
  intro hyn
  obtain ⟨hpos, -, hov⟩ := (hs.ordered.tally.each past t x later hh).of_closed? hx
  have hn : n ∈ past.closed := List.mem_filterMap.mpr ⟨(u, y), hy, hyn⟩
  rw [hov, mem_upTo] at hn
  omega

/-- There is one place in a history where a restart comes to its end. -/
theorem Reachable.closed_once (hs : Reachable script s) {past past' later later' : History}
    {t u : Nat} {x y : Happening} (hh : s.history = past ++ (t, x) :: later)
    (hh' : s.history = past' ++ (u, y) :: later') (hx : x.closed? = some n)
    (hy : y.closed? = some n) : past = past' ∧ (t, x) = (u, y) := by
  rcases List.append_eq_append_iff.mp (hh.symm.trans hh') with ⟨k, rfl, hk⟩ | ⟨k, rfl, hk⟩
  · rcases k with _ | ⟨z, k⟩
    · exact ⟨(List.append_nil _).symm, (List.cons.inj hk).1⟩
    · obtain ⟨rfl, -⟩ := List.cons.inj hk
      exact absurd hx (hs.not_closed_before hh' hy (List.mem_append_right _ (List.mem_cons_self ..)))
  · rcases k with _ | ⟨z, k⟩
    · exact ⟨List.append_nil _, (List.cons.inj hk).1.symm⟩
    · obtain ⟨rfl, -⟩ := List.cons.inj hk
      exact absurd hy (hs.not_closed_before hh hx (List.mem_append_right _ (List.mem_cons_self ..)))

/-- A restart comes to its end once. -/
theorem Reachable.settles_unique (hs : Reachable script s) {u : Nat} {p : Outcome}
    (h1 : s.history.Settles n e o) (h2 : s.history.Settles n u p) : e = u ∧ o = p := by
  refine ⟨?_, ?_⟩
  · obtain ⟨x, f, hx, hxf, -⟩ := h1
    obtain ⟨y, g, hy, hyg, -⟩ := h2
    obtain ⟨a, b, hh⟩ := List.append_of_mem hx
    obtain ⟨c, d, hh'⟩ := List.append_of_mem hy
    obtain ⟨-, hxy⟩ := hs.closed_once hh hh' (Happening.closed?_of_fate? hxf)
      (Happening.closed?_of_fate? hyg)
    exact (Prod.mk.inj hxy).1
  · have ho := hs.settled?_iff.mpr ⟨e, h1⟩
    rw [hs.settled?_iff.mpr ⟨u, h2⟩] at ho
    cases ho; rfl

end

end DevServer.Restart
