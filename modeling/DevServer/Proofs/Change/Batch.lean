import DevServer.Proofs.Change.PathOrder

/-!
# What a batch holds

`Merged es changes` says that `changes` is what merging makes of the events `es`, path by path. The
pending changes are the merged events since the last batch (`Gathered.merged`), and a batch is these
in path order (`Gathered.batch`).
-/

namespace DevServer

/-- What merging makes of the changes of a path that events report. -/
def mergedKind (es : List FileEvent) (p : Path) : Option ChangeKind :=
  (Debouncer.kindsOf es p).foldl (fun pending kind => kind.onto pending) none

/-- The changes are the merged events: one a path, in a spelling of some event. -/
structure Merged (es : List FileEvent) (changes : List Change) : Prop where
  kinds : ∀ p, kindsAt changes p = if isTemporary p then [] else (mergedKind es p).toList
  spelled : ∀ c ∈ changes, ∃ e ∈ es, c.path ∈ e.paths

/-- The order of the changes is of no importance. -/
theorem Merged.sorted {es : List FileEvent} {pending : Pending} (h : Merged es pending)
    (hd : pending.Distinct) : Merged es pending.sorted where
  kinds p := by rw [hd.kindsAt_sorted, h.kinds]
  spelled c hc := h.spelled c ((List.mergeSort_perm ..).mem_iff.mp hc)

namespace Debouncer

variable {d : Debouncer} {now : Nat} {c : Change}

theorem mem_recordChange {kind : ChangeKind} {q : Path}
    (h : c ∈ (recordChange now kind d q).pending) :
    (∃ b ∈ d.pending, b.path = c.path) ∨ c.path = q ∧ isTemporary q = false := by
  unfold recordChange at h
  split at h
  case isTrue => exact .inl ⟨c, h, rfl⟩
  case isFalse hq =>
    split at h
    · exact .inl ⟨c, h, rfl⟩
    · rcases Pending.path_mem_set h with hb | ⟨hcq, -⟩
      · exact .inl hb
      · exact .inr ⟨hcq, by simpa using hq⟩
    · exact .inl ⟨c, (List.mem_filter.mp h).1, rfl⟩

/-- A path is pending from before, or an event reports it and it is not temporary. -/
theorem mem_record {e : FileEvent} (h : c ∈ (d.record now e).pending) :
    (∃ b ∈ d.pending, b.path = c.path) ∨ c.path ∈ e.paths ∧ isTemporary c.path = false := by
  unfold record at h
  cases hk : e.kind.change? with
  | none => rw [hk] at h; exact .inl ⟨c, h, rfl⟩
  | some kind =>
    rw [hk] at h
    dsimp only at h
    generalize e.paths = paths at h ⊢
    induction paths generalizing d with
    | nil => exact .inl ⟨c, h, rfl⟩
    | cons q qs ih =>
      rcases ih h with ⟨b, hb, hbc⟩ | ⟨hc, ht⟩
      · rcases mem_recordChange hb with ⟨a, ha, hab⟩ | ⟨hbq, hq⟩
        · exact .inl ⟨a, ha, hab.trans hbc⟩
        · rw [← hbq, hbc] at hq
          exact .inr ⟨by rw [← hbc, hbq]; exact List.mem_cons_self .., hq⟩
      · exact .inr ⟨List.mem_cons_of_mem _ hc, ht⟩

namespace Gathered

variable {window : Nat} {es : List FileEvent}

theorem mem_pending (h : Gathered window d es) (hc : c ∈ d.pending) :
    (∃ e ∈ es, c.path ∈ e.paths) ∧ isTemporary c.path = false := by
  induction h generalizing c with
  | new => cases hc
  | record _ now e ih =>
    rcases mem_record hc with ⟨b, hb, hbc⟩ | ⟨hce, ht⟩
    · obtain ⟨⟨f, hf, hbf⟩, ht⟩ := ih hb
      rw [hbc] at hbf ht
      exact ⟨⟨f, List.mem_append_left _ hf, hbf⟩, ht⟩
    · exact ⟨⟨e, by simp, hce⟩, ht⟩
  | take _ ht => rw [(take?_eq_some ht).2] at hc; cases hc

theorem merged (h : Gathered window d es) : Merged es d.pending where
  kinds p := by
    cases hp : isTemporary p with
    | false => rw [h.distinct.kindsAt_eq, h.kind?_eq hp]; rfl
    | true =>
      refine List.map_eq_nil_iff.mpr (List.filter_eq_nil_iff.mpr fun c hc hcp => ?_)
      rw [← isTemporary_congr hcp, (h.mem_pending hc).2] at hp
      cases hp
  spelled _ hc := (h.mem_pending hc).1

/-- **A batch is the merged events since the last one**, in path order. -/
theorem batch (h : Gathered window d es) {d' : Debouncer} {batch : List Change}
    (ht : d.take? now = some (batch, d')) :
    batch ≠ [] ∧ Ascending (batch.map Change.path) ∧ Merged es batch := by
  have hready : d.pending ≠ [] := by
    intro hnil
    have : d.isReady now = false := by simp [isReady, hnil]; split <;> rfl
    rw [(take?_eq_none_iff d now).mpr this] at ht
    cases ht
  rw [(take?_eq_some ht).1]
  exact ⟨Pending.sorted_ne_nil hready, h.distinct.sorted_ascending, h.merged.sorted h.distinct⟩

end Gathered

end Debouncer

end DevServer
