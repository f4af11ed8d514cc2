import DevServer.Proofs.Change.Timeline
import Mathlib

/-!
# Batches as folds

What a batch holds for a path is the fold of the kinds of the changes of that path over the table
`mergeKinds`, and the batch is these in path order (`SortedFold`). Byte for byte it is made of the
changes of each path alone, so it is the same however changes of different paths are mixed, or grouped
into events (`Timeline.batches_fold`). An event makes a change of a path for each time that it names it
(`Timeline.named_twice`).
-/

namespace DevServer

open Debouncer (kindsOf changesOf)

/-! ## The table -/

/-- What is pending for a path after one more change: what was removed and is created or modified
becomes that, what was modified and is removed becomes removed, what was created and is removed
cancels out, and otherwise the first change stands. -/
def mergeKinds : Option ChangeKind → ChangeKind → Option ChangeKind
  | none, kind => some kind
  | some .removed, .created => some .created
  | some .removed, .modified => some .modified
  | some .modified, .removed => some .removed
  | some .created, .removed => none
  | some first, _ => some first

theorem mergeKinds_eq : mergeKinds = fun pending kind => kind.onto pending := by
  funext pending kind
  rcases pending with _ | _ | _ | _ <;> cases kind <;> rfl

/-- What the changes of a path amount to, in the spelling that stands. -/
def mergedEntry (es : List FileEvent) (p : Path) : Option Change :=
  (changesOf es p).foldl Change.onto none

theorem map_kind_mergedEntry (es : List FileEvent) (p : Path) :
    (mergedEntry es p).map Change.kind = (kindsOf es p).foldl mergeKinds none := by
  rw [mergedEntry, Change.map_kind_foldl_onto, Debouncer.map_kind_changesOf, mergeKinds_eq]
  rfl

/-- The kinds of the events that name a path, one for each event. -/
def eventKinds (es : List FileEvent) (p : Path) : List ChangeKind :=
  (es.filter fun e => e.paths.any (·.same p)).filterMap (·.kind.change?)

/-- Where no event names the path twice, its kinds are those of the events that name it. -/
theorem kindsOf_of_once {es : List FileEvent} {p : Path}
    (h : ∀ e ∈ es, (e.paths.filter (·.same p)).length ≤ 1) : kindsOf es p = eventKinds es p := by
  unfold eventKinds
  induction es with
  | nil => rfl
  | cons e es ih =>
    obtain ⟨he, hes⟩ := List.forall_mem_cons.mp h
    have hkinds : e.kindsAt p =
        if e.paths.any (·.same p) then e.kind.change?.toList else [] := by
      unfold FileEvent.kindsAt
      cases hf : e.paths.filter (·.same p) with
      | nil =>
        have hany : e.paths.any (·.same p) = false := by simpa using hf
        rw [hany]
        cases e.kind.change? <;> rfl
      | cons q qs =>
        have hq : q ∈ e.paths.filter (·.same p) := by simp [hf]
        have hany : e.paths.any (·.same p) = true :=
          List.any_eq_true.mpr ⟨q, List.mem_filter.mp hq⟩
        have hqs : qs = [] := by simpa [hf] using he
        rw [hany, hqs]
        cases e.kind.change? <;> rfl
    rw [kindsOf, List.flatMap_cons, hkinds, ← kindsOf, ih hes, List.filter_cons]
    split
    · cases hk : e.kind.change? <;> simp [hk]
    · rfl

/-! ## Sorted folds -/

/-- The changes are what merging makes of the events, path by path, in path order. -/
structure SortedFold (es : List FileEvent) (changes : List Change) : Prop where
  ascending : Ascending (changes.map Change.path)
  lasting : ∀ c ∈ changes, isTemporary c.path = false
  /-- A path is held with a kind just when its changes amount to that kind; an event makes one change
  for each time that it names the path. -/
  holds_iff : ∀ p kind, (∃ c ∈ changes, c.path.same p = true ∧ c.kind = kind) ↔
    isTemporary p = false ∧ (kindsOf es p).foldl mergeKinds none = some kind
  holds_iff_of_once : ∀ p kind, (∀ e ∈ es, (e.paths.filter (·.same p)).length ≤ 1) →
    ((∃ c ∈ changes, c.path.same p = true ∧ c.kind = kind) ↔
      isTemporary p = false ∧ (eventKinds es p).foldl mergeKinds none = some kind)
  mem_iff : ∀ c, c ∈ changes ↔ isTemporary c.path = false ∧ mergedEntry es c.path = some c

theorem Pending.Distinct.mem_iff {pending : Pending} (h : pending.Distinct) (c : Change) :
    c ∈ pending ↔ pending.lookup? c.path = some c := by
  constructor
  · intro hc
    induction pending with
    | nil => cases hc
    | cons b bs ih =>
      obtain ⟨hb, hbs⟩ := List.pairwise_cons.mp h
      rw [lookup?_cons]
      rcases List.mem_cons.mp hc with rfl | hc
      · rw [if_pos (Path.same_refl _)]
      · rw [if_neg (by simp [hb c hc]), ih hbs hc]
  · exact List.mem_of_find?_eq_some

theorem Pending.lookup?_path {pending : Pending} {p : Path} {c : Change}
    (h : pending.lookup? p = some c) : c.path.same p = true := by
  simpa using List.find?_some h

namespace Debouncer.Gathered

variable {d d' : Debouncer} {window now : Nat} {es : List FileEvent} {batch : List Change}

theorem mem_batch_iff (h : Gathered window d es) (ht : d.take? now = some (batch, d'))
    (c : Change) : c ∈ batch ↔ isTemporary c.path = false ∧ mergedEntry es c.path = some c := by
  rw [(take?_eq_some ht).1, Pending.sorted, (List.mergeSort_perm ..).mem_iff]
  constructor
  · intro hc
    have hlasting : isTemporary c.path = false := (h.mem_pending hc).2
    exact ⟨hlasting, (h.lookup?_eq hlasting).symm.trans ((h.distinct.mem_iff c).mp hc)⟩
  · rintro ⟨hlasting, hc⟩
    exact (h.distinct.mem_iff c).mpr ((h.lookup?_eq hlasting).trans hc)

theorem holds_iff (h : Gathered window d es) (ht : d.take? now = some (batch, d')) (p : Path)
    (kind : ChangeKind) : (∃ c ∈ batch, c.path.same p = true ∧ c.kind = kind) ↔
      isTemporary p = false ∧ (kindsOf es p).foldl mergeKinds none = some kind := by
  rw [← map_kind_mergedEntry]
  constructor
  · rintro ⟨c, hc, hcp, rfl⟩
    obtain ⟨hlasting, hentry⟩ := (h.mem_batch_iff ht c).mp hc
    have hp : isTemporary p = false := (isTemporary_congr hcp).symm.trans hlasting
    refine ⟨hp, ?_⟩
    rw [mergedEntry, ← h.lookup?_eq hp, ← Pending.lookup?_congr hcp, h.lookup?_eq hlasting,
      ← mergedEntry, hentry]
    rfl
  · rintro ⟨hp, hkind⟩
    obtain ⟨c, hc, hck⟩ := Option.map_eq_some_iff.mp hkind
    rw [mergedEntry, ← h.lookup?_eq hp] at hc
    have hcp : c.path.same p = true := Pending.lookup?_path hc
    have hlasting : isTemporary c.path = false := (isTemporary_congr hcp).trans hp
    rw [← Pending.lookup?_congr hcp, h.lookup?_eq hlasting] at hc
    exact ⟨c, (h.mem_batch_iff ht c).mpr ⟨hlasting, hc⟩, hcp, hck⟩

/-- **A batch is the sorted fold** of what was recorded since the last one. -/
theorem sortedFold (h : Gathered window d es) (ht : d.take? now = some (batch, d')) :
    SortedFold es batch where
  ascending := (h.batch ht).2.1
  lasting c hc := ((h.mem_batch_iff ht c).mp hc).1
  holds_iff := h.holds_iff ht
  holds_iff_of_once p kind honce := by rw [← kindsOf_of_once honce]; exact h.holds_iff ht p kind
  mem_iff := h.mem_batch_iff ht

end Debouncer.Gathered

/-- A sorted fold is given by the changes of each path. -/
theorem SortedFold.unique {es fs : List FileEvent} {xs ys : List Change} (hx : SortedFold es xs)
    (hy : SortedFold fs ys)
    (h : ∀ p, isTemporary p = false → changesOf es p = changesOf fs p) : xs = ys := by
  have hmem (c : Change) : c ∈ xs ↔ c ∈ ys := by
    rw [hx.mem_iff, hy.mem_iff]
    refine and_congr_right fun hc => ?_
    rw [mergedEntry, h c.path hc, ← mergedEntry]
  have hnodup {zs : List Change} (hz : Ascending (zs.map Change.path)) : zs.Nodup :=
    (List.pairwise_map.mp hz).imp fun {a b} hab heq => by
      rw [heq, Path.compare_eq_iff.mpr (Path.same_refl _)] at hab
      cases hab
  have hperm : xs.Perm ys :=
    (List.perm_ext_iff_of_nodup (hnodup hx.ascending) (hnodup hy.ascending)).mpr hmem
  refine hperm.eq_of_pairwise (fun a b _ _ hab hba => ?_) (List.pairwise_map.mp hx.ascending)
    (List.pairwise_map.mp hy.ascending)
  rw [Path.compare_swap, hba] at hab
  cases hab

/-! ## Batches of a timeline -/

namespace Timeline

open Debouncer (Use)

/-- What an attempt to take a batch gives, and what it leaves. -/
structure Gives (t : Timeline) : Prop where
  refused : t.debouncer.take? t.now = none → t.use .take = t
  batch : ∀ changes d, t.debouncer.take? t.now = some (changes, d) →
    SortedFold t.events changes ∧ (t.use .take).debouncer.pending = [] ∧
      ∀ later, (t.use .take).debouncer.take? later = none
  /-- Only the changes of each path matter, in their order. -/
  alike : ∀ changes d, t.debouncer.take? t.now = some (changes, d) →
    ∀ (window : Nat) (us : List Use) (others : List Change) (d' : Debouncer),
      (after window us).debouncer.take? (after window us).now = some (others, d') →
        (∀ p, isTemporary p = false →
          changesOf t.events p = changesOf (after window us).events p) → changes = others

/-- **Batches are the folds of what was recorded**, whatever was done before. -/
theorem batches_fold (window : Nat) (us : List Use) : (after window us).Gives where
  refused h := by rw [use, h]
  batch changes d h := by
    have hnone : d.pending = [] := (Debouncer.take?_eq_some h).2
    rw [use, h]
    refine ⟨(sound window us).gathered.sortedFold h, hnone, fun later => ?_⟩
    rw [Debouncer.take?_eq_none_iff, Debouncer.isReady]
    simp only [hnone, List.isEmpty_nil, Bool.not_true, Bool.and_false]
    split <;> rfl
  alike changes d h window' us' others d' h' hp :=
    ((sound window us).gathered.sortedFold h).unique ((sound window' us').gathered.sortedFold h') hp

/-- An event that names a file twice counts twice: when the file was created, its removal cancels that
and then stands on its own. -/
theorem named_twice : ¬∀ (window : Nat) (us : List Use) (changes : List Change) (d : Debouncer),
    (after window us).debouncer.take? (after window us).now = some (changes, d) →
    ∀ p kind, (∃ c ∈ changes, c.path.same p = true ∧ c.kind = kind) ↔
      isTemporary p = false ∧
        (eventKinds (after window us).events p).foldl mergeKinds none = some kind := by
  intro hall
  let us : List Use := [.record ⟨.create, ["/src/page.tsx"]⟩,
    .record ⟨.modify .data, ["/src/other.tsx"]⟩,
    .record ⟨.remove, ["/src/page.tsx", "/src/page.tsx"]⟩, .pass 300]
  have htake : (after 300 us).debouncer.take? (after 300 us).now =
      some ([⟨"/src/other.tsx", .modified⟩, ⟨"/src/page.tsx", .removed⟩], .new 300) := by cbv
  have hheld := (hall 300 us _ _ htake "/src/page.tsx" .removed).mp
    ⟨⟨"/src/page.tsx", .removed⟩, by simp, Path.same_refl _, rfl⟩
  have hnone : (eventKinds (after 300 us).events "/src/page.tsx").foldl mergeKinds none = none := by
    cbv
  cases hnone.symm.trans hheld.2

end Timeline

end DevServer
