import DevServer.Change.Debouncer

/-!
# What is pending for a path

The pending changes are a map from paths, however they are spelled (`lookup?_set`, `lookup?_erase`),
with one entry a path (`Pending.Distinct`). What an event makes of the entry of a path is the fold of
`Change.onto` over the changes of that path (`lookup?_record`). `Gathered d es` says that the events
`es` are what the debouncer `d` has recorded since its last batch.
-/

namespace DevServer

/-! ## Spellings -/

namespace Path

theorem same_iff {p q : Path} : p.same q = true ↔ p.components = q.components := by simp [same]

theorem same_congr {p q : Path} (h : p.same q = true) (r : Path) : r.same p = r.same q := by
  simp only [same, same_iff.mp h]

theorem same_congr_left {p q : Path} (h : p.same q = true) (r : Path) : p.same r = q.same r := by
  simp only [same, same_iff.mp h]

theorem fileName?_congr {p q : Path} (h : p.same q = true) : p.fileName? = q.fileName? := by
  rw [fileName?, same_iff.mp h, ← fileName?]

end Path

theorem isTemporary_congr {p q : Path} (h : p.same q = true) : isTemporary p = isTemporary q := by
  simp only [isTemporary, Path.extension?, Path.fileName?_congr h]

/-! ## The map of pending changes -/

/-- The kinds of the changes of a path. -/
def kindsAt (cs : List Change) (p : Path) : List ChangeKind :=
  (cs.filter (·.path.same p)).map Change.kind

namespace Pending

variable {pending : Pending} {p q : Path} {kind : ChangeKind}

/-- The pending change of a path, in the spelling that it has there. -/
def lookup? (pending : Pending) (p : Path) : Option Change := pending.find? (·.path.same p)

theorem kind?_eq (pending : Pending) (p : Path) :
    pending.kind? p = (pending.lookup? p).map Change.kind := rfl

theorem lookup?_congr (h : p.same q = true) : pending.lookup? p = pending.lookup? q := by
  simp only [lookup?, Path.same_congr h]

theorem lookup?_cons (c : Change) (cs : Pending) :
    Pending.lookup? (c :: cs) p = if c.path.same p then some c else Pending.lookup? cs p := by
  unfold lookup?
  rw [List.find?_cons]
  cases c.path.same p <;> rfl

theorem lookup?_set (pending : Pending) (p q : Path) (kind : ChangeKind) :
    (pending.set p kind).lookup? q =
      if p.same q then some ⟨((pending.lookup? p).map Change.path).getD p, kind⟩
      else pending.lookup? q := by
  induction pending with
  | nil => rw [set, lookup?_cons]; rfl
  | cons c cs ih =>
    by_cases hc : c.path.same p = true
    · rw [set, if_pos hc, lookup?_cons, lookup?_cons, lookup?_cons, if_pos hc,
        Path.same_congr_left hc]
      split <;> rfl
    · rw [set, if_neg hc, lookup?_cons, lookup?_cons, lookup?_cons, if_neg hc, ih]
      by_cases hpq : p.same q = true
      · -- the entry is another path's, so it is not the one that is looked for
        have hcq : ¬c.path.same q = true := by rwa [← Path.same_congr hpq]
        rw [if_neg hcq, if_pos hpq, if_pos hpq]
      · rw [if_neg hpq, if_neg hpq]

theorem lookup?_erase (pending : Pending) (p q : Path) :
    (pending.erase p).lookup? q = if p.same q then none else pending.lookup? q := by
  induction pending with
  | nil => simp [erase, lookup?]
  | cons c cs ih =>
    by_cases hc : c.path.same p = true
    · have he : Pending.erase (c :: cs) p = Pending.erase cs p := by simp [erase, hc]
      rw [he, ih, lookup?_cons, Path.same_congr_left hc]
      split <;> rfl
    · have he : Pending.erase (c :: cs) p = c :: Pending.erase cs p := by simp [erase, hc]
      rw [he, lookup?_cons, lookup?_cons, ih]
      by_cases hpq : p.same q = true
      · have hcq : ¬c.path.same q = true := by rwa [← Path.same_congr hpq]
        rw [if_neg hcq, if_pos hpq, if_pos hpq]
      · rw [if_neg hpq, if_neg hpq]

/-- No two pending changes are of the same path. -/
def Distinct (pending : Pending) : Prop := pending.Pairwise fun a b => a.path.same b.path = false

theorem Distinct.kindsAt_eq (h : pending.Distinct) (p : Path) :
    kindsAt pending p = (pending.kind? p).toList := by
  induction pending with
  | nil => rfl
  | cons c cs ih =>
    obtain ⟨hc, hcs⟩ := List.pairwise_cons.mp h
    rw [kind?_eq, lookup?_cons, kindsAt, List.filter_cons]
    by_cases hcp : c.path.same p = true
    · have hnone : cs.filter (·.path.same p) = [] := by
        refine List.filter_eq_nil_iff.mpr fun b hb => ?_
        rw [← Path.same_congr hcp, Path.same_comm, hc b hb]
        simp
      rw [if_pos hcp, if_pos hcp, hnone]; rfl
    · rw [if_neg hcp, if_neg hcp]
      exact ih hcs

theorem path_mem_set {c : Change} (h : c ∈ pending.set p kind) :
    (∃ b ∈ pending, b.path = c.path) ∨ c.path = p ∧ pending.lookup? p = none := by
  induction pending with
  | nil => exact .inr ⟨by rw [List.mem_singleton.mp h], rfl⟩
  | cons b bs ih =>
    rw [set] at h
    split at h
    · rcases List.mem_cons.mp h with rfl | h
      · exact .inl ⟨b, List.mem_cons_self .., rfl⟩
      · exact .inl ⟨c, List.mem_cons_of_mem _ h, rfl⟩
    · next hb =>
      rcases List.mem_cons.mp h with rfl | h
      · exact .inl ⟨c, List.mem_cons_self .., rfl⟩
      · rcases ih h with ⟨d, hd, hdc⟩ | ⟨hcp, hnone⟩
        · exact .inl ⟨d, List.mem_cons_of_mem _ hd, hdc⟩
        · exact .inr ⟨hcp, by rw [lookup?_cons, if_neg hb, hnone]⟩

theorem Distinct.set (h : pending.Distinct) (p : Path) (kind : ChangeKind) :
    (pending.set p kind).Distinct := by
  induction pending with
  | nil => exact List.pairwise_singleton ..
  | cons c cs ih =>
    obtain ⟨hc, hcs⟩ := List.pairwise_cons.mp h
    rw [Pending.set]
    split
    · exact List.pairwise_cons.mpr ⟨hc, hcs⟩
    · next hcp =>
      refine List.pairwise_cons.mpr ⟨fun b hb => ?_, ih hcs⟩
      rcases path_mem_set hb with ⟨d, hd, hdb⟩ | ⟨hbp, -⟩
      · rw [← hdb]; exact hc d hd
      · rw [hbp]; simpa using hcp

theorem Distinct.erase (h : pending.Distinct) (p : Path) : (pending.erase p).Distinct :=
  List.Pairwise.filter _ h

/-- Putting the changes in order changes nothing for a path. -/
theorem Distinct.kindsAt_sorted (h : pending.Distinct) (p : Path) :
    kindsAt pending.sorted p = kindsAt pending p := by
  have hperm : (kindsAt pending.sorted p).Perm (kindsAt pending p) :=
    ((List.mergeSort_perm ..).filter _).map _
  rw [h.kindsAt_eq] at hperm ⊢
  cases hk : pending.kind? p with
  | none => rw [hk] at hperm; exact hperm.eq_nil
  | some k => rw [hk] at hperm; exact List.perm_singleton.mp hperm

end Pending

/-! ## Recording events -/

/-- What is pending for a path after a change of it, given what was pending before. -/
def ChangeKind.onto (pending : Option ChangeKind) (kind : ChangeKind) : Option ChangeKind :=
  match Merge.of pending kind with
  | .keep => pending
  | .set k => some k
  | .cancel => none

/-- A change merged to what is pending for its path, which keeps its spelling. -/
def Change.onto (pending : Option Change) (c : Change) : Option Change :=
  match pending with
  | none => some c
  | some first => (c.kind.onto (some first.kind)).map fun kind => ⟨first.path, kind⟩

theorem Change.map_kind_onto (pending : Option Change) (c : Change) :
    (Change.onto pending c).map Change.kind = c.kind.onto (pending.map Change.kind) := by
  cases pending with
  | none => rfl
  | some first => simp [onto, Option.map_map, Function.comp_def]

theorem Change.map_kind_foldl_onto (cs : List Change) (pending : Option Change) :
    (cs.foldl Change.onto pending).map Change.kind =
      (cs.map Change.kind).foldl (fun pending kind => kind.onto pending)
        (pending.map Change.kind) := by
  induction cs generalizing pending with
  | nil => rfl
  | cons c cs ih => rw [List.foldl_cons, ih, Change.map_kind_onto, List.map_cons, List.foldl_cons]

namespace FileEvent

/-- The changes of a path that an event reports, one for each time that it names the path. -/
def changesOf (e : FileEvent) (p : Path) : List Change :=
  match e.kind.change? with
  | none => []
  | some kind => (e.paths.filter (·.same p)).map fun q => ⟨q, kind⟩

/-- The kinds of the changes of a path that an event reports. -/
def kindsAt (e : FileEvent) (p : Path) : List ChangeKind :=
  match e.kind.change? with
  | none => []
  | some kind => (e.paths.filter (·.same p)).map fun _ => kind

theorem map_kind_changesOf (e : FileEvent) (p : Path) :
    (e.changesOf p).map Change.kind = e.kindsAt p := by
  unfold changesOf kindsAt
  cases e.kind.change? with
  | none => rfl
  | some kind => rw [List.map_map]; rfl

end FileEvent

namespace Debouncer

variable {d : Debouncer} {now : Nat} {p : Path}

theorem lookup?_recordChange (hp : isTemporary p = false) (kind : ChangeKind) (d : Debouncer)
    (q : Path) : (recordChange now kind d q).pending.lookup? p =
      if q.same p then Change.onto (d.pending.lookup? p) ⟨q, kind⟩ else d.pending.lookup? p := by
  by_cases hq : q.same p = true
  · rw [if_pos hq, ← Pending.lookup?_congr hq, ← Pending.lookup?_congr hq, recordChange,
      isTemporary_congr hq, hp, Pending.kind?_eq]
    cases he : d.pending.lookup? q with
    | none => simp [Merge.of, Change.onto, Pending.lookup?_set, Path.same_refl, he]
    | some first =>
      simp only [Change.onto, ChangeKind.onto, Option.map_some]
      cases Merge.of (some first.kind) kind with
      | keep => simp [he]
      | set k => simp [Pending.lookup?_set, Path.same_refl, he]
      | cancel => simp [Pending.lookup?_erase, Path.same_refl]
  · rw [if_neg hq, recordChange]
    split
    · rfl
    · cases Merge.of (d.pending.kind? q) kind with
      | keep => rfl
      | set k => simp [Pending.lookup?_set, hq]
      | cancel => simp [Pending.lookup?_erase, hq]

/-- **What is pending for a path** after an event is what its changes make of what was pending. -/
theorem lookup?_record (hp : isTemporary p = false) (d : Debouncer) (now : Nat) (e : FileEvent) :
    (d.record now e).pending.lookup? p =
      (e.changesOf p).foldl Change.onto (d.pending.lookup? p) := by
  unfold record FileEvent.changesOf
  cases e.kind.change? with
  | none => rfl
  | some kind =>
    dsimp only
    induction e.paths generalizing d with
    | nil => rfl
    | cons q qs ih =>
      rw [List.foldl_cons, ih, lookup?_recordChange hp, List.filter_cons]
      split <;> rfl

theorem distinct_recordChange (h : d.pending.Distinct) (kind : ChangeKind) (q : Path) :
    (recordChange now kind d q).pending.Distinct := by
  unfold recordChange
  split
  · exact h
  · split
    · exact h
    · exact h.set q _
    · exact h.erase q

theorem distinct_record (h : d.pending.Distinct) (now : Nat) (e : FileEvent) :
    (d.record now e).pending.Distinct := by
  unfold record
  cases e.kind.change? with
  | none => exact h
  | some kind =>
    dsimp only
    induction e.paths generalizing d with
    | nil => exact h
    | cons q qs ih => exact ih (distinct_recordChange h kind q)

/-- The debouncer has recorded the events since it gave out its last batch, or since it was new. -/
inductive Gathered (window : Nat) : Debouncer → List FileEvent → Prop where
  | new : Gathered window (.new window) []
  | record {d : Debouncer} {es : List FileEvent} (h : Gathered window d es) (now : Nat)
    (e : FileEvent) : Gathered window (d.record now e) (es ++ [e])
  | take {d d' : Debouncer} {es : List FileEvent} {now : Nat} {batch : List Change}
    (h : Gathered window d es) (ht : d.take? now = some (batch, d')) : Gathered window d' []

/-- The changes of a path that events report, one after the other. -/
def changesOf (es : List FileEvent) (p : Path) : List Change := es.flatMap (·.changesOf p)

/-- The kinds of the changes of a path that events report, one after the other. -/
def kindsOf (es : List FileEvent) (p : Path) : List ChangeKind := es.flatMap (·.kindsAt p)

theorem map_kind_changesOf (es : List FileEvent) (p : Path) :
    (changesOf es p).map Change.kind = kindsOf es p := by
  simp only [changesOf, kindsOf, List.map_flatMap, FileEvent.map_kind_changesOf]

theorem take?_eq_some {d' : Debouncer} {batch : List Change}
    (h : d.take? now = some (batch, d')) : batch = d.pending.sorted ∧ d'.pending = [] := by
  unfold take? at h
  split at h
  · cases h; exact ⟨rfl, rfl⟩
  · cases h

namespace Gathered

variable {window : Nat} {es : List FileEvent}

theorem distinct (h : Gathered window d es) : d.pending.Distinct := by
  induction h with
  | new => exact .nil
  | record _ now e ih => exact distinct_record ih now e
  | take _ ht => rw [(take?_eq_some ht).2]; exact .nil

/-- What is pending for a path is the fold of its changes since the last batch. -/
theorem lookup?_eq (h : Gathered window d es) (hp : isTemporary p = false) :
    d.pending.lookup? p = (changesOf es p).foldl Change.onto none := by
  induction h with
  | new => rfl
  | record _ now e ih =>
    rw [lookup?_record hp, ih, changesOf, changesOf, List.flatMap_append, List.foldl_append]
    simp
  | take _ ht => rw [(take?_eq_some ht).2]; rfl

theorem kind?_eq (h : Gathered window d es) (hp : isTemporary p = false) :
    d.pending.kind? p =
      (kindsOf es p).foldl (fun pending kind => kind.onto pending) none := by
  rw [Pending.kind?_eq, h.lookup?_eq hp, Change.map_kind_foldl_onto, map_kind_changesOf]
  rfl

/-- A batch gives for each path what was pending for it. -/
theorem kindsAt_batch (h : Gathered window d es) {d' : Debouncer} {batch : List Change}
    (ht : d.take? now = some (batch, d')) (p : Path) : kindsAt batch p = kindsAt d.pending p := by
  rw [(take?_eq_some ht).1]
  exact h.distinct.kindsAt_sorted p

end Gathered

end Debouncer

end DevServer
