import DevServer.Proofs.Change.Pending
import Mathlib

/-!
# The net change of a file

`FileHistory existed ks present` says that the changes `ks` can be those of one file: it is created
while it is not there, and modified or removed while it is. A batch tells what became of the file
since the batch before, with one exception that comes from merging changes in pairs: a file that was
there, was removed, created again and removed again is not in the batch, since a creation and a
removal cancel each other whatever was pending before them (`pending_net_change`,
`removal_not_reported`).
-/

namespace DevServer

/-- Changes, oldest first, that can be those of one file, and whether it is there after them. -/
inductive FileHistory (existed : Bool) : List ChangeKind → Bool → Prop where
  | start : FileHistory existed [] existed
  | created {ks : List ChangeKind} (h : FileHistory existed ks false) :
    FileHistory existed (ks ++ [.created]) true
  | modified {ks : List ChangeKind} (h : FileHistory existed ks true) :
    FileHistory existed (ks ++ [.modified]) true
  | removed {ks : List ChangeKind} (h : FileHistory existed ks true) :
    FileHistory existed (ks ++ [.removed]) false

/-- What merging makes of the changes of a file. -/
def mergedChange (existed present : Bool) (ks : List ChangeKind) : Option ChangeKind :=
  match existed, present with
  | false, false => none
  | false, true => some .created
  | true, false => if ks.count .removed = 1 then some .removed else none
  | true, true =>
    if .removed ∈ ks then some .created else if ks = [] then none else some .modified

namespace FileHistory

variable {existed present : Bool} {ks : List ChangeKind}

theorem removed_mem (h : FileHistory existed ks present) (he : existed = true)
    (hp : present = false) : .removed ∈ ks := by
  cases h with
  | start => rw [he] at hp; cases hp
  | created | modified => cases hp
  | removed => simp

theorem merged (h : FileHistory existed ks present) :
    ks.foldl (fun pending kind => kind.onto pending) none = mergedChange existed present ks := by
  induction h with
  | start => cases existed <;> rfl
  | @created ks h ih =>
    rw [List.foldl_append, ih, List.foldl_cons, List.foldl_nil]
    cases existed with
    | false => rfl
    | true =>
      have hr : .removed ∈ ks := h.removed_mem rfl rfl
      by_cases hc : ks.count .removed = 1 <;> simp [mergedChange, hr, hc, ChangeKind.onto, Merge.of]
  | @modified ks h ih =>
    rw [List.foldl_append, ih, List.foldl_cons, List.foldl_nil]
    cases existed with
    | false => rfl
    | true =>
      by_cases hr : .removed ∈ ks
      · simp [mergedChange, hr, ChangeKind.onto, Merge.of]
      · by_cases hn : ks = [] <;> simp [mergedChange, hr, hn, ChangeKind.onto, Merge.of]
  | @removed ks h ih =>
    rw [List.foldl_append, ih, List.foldl_cons, List.foldl_nil]
    cases existed with
    | false => rfl
    | true =>
      -- the first removal replaces what is pending, and every other one cancels a creation
      by_cases hr : .removed ∈ ks
      · have hc : 0 < ks.count .removed := List.count_pos_iff.mpr hr
        simp [mergedChange, hr, ChangeKind.onto, Merge.of, List.count_append]
        omega
      · have hc : ks.count .removed = 0 := List.count_eq_zero.mpr hr
        by_cases hn : ks = [] <;>
          simp [mergedChange, hr, hc, hn, ChangeKind.onto, Merge.of, List.count_append]

end FileHistory

/-- What the pending changes hold for a file after its changes `ks`. -/
structure NetChange (existed present : Bool) (ks held : List ChangeKind) : Prop where
  gone : existed = true → present = false →
    held = if ks.count .removed = 1 then [.removed] else []
  there : present = true → ks ≠ [] → held = [.created] ∨ held = [.modified]
  passing : existed = false → present = false → held = []

/-- **The pending changes hold the net change of every file**, but not a removal that is not the
file's first, and the next batch gives what they hold. -/
theorem pending_net_change {window : Nat} {d : Debouncer} {es : List FileEvent} {p : Path}
    {existed present : Bool} (h : d.Gathered window es) (hp : isTemporary p = false)
    (hf : FileHistory existed (Debouncer.kindsOf es p) present) :
    NetChange existed present (Debouncer.kindsOf es p) (kindsAt d.pending p) ∧
      ∀ now batch d', d.take? now = some (batch, d') → kindsAt batch p = kindsAt d.pending p := by
  refine ⟨?_, fun now batch d' ht => h.kindsAt_batch ht p⟩
  have hheld : kindsAt d.pending p =
      (mergedChange existed present (Debouncer.kindsOf es p)).toList := by
    rw [h.distinct.kindsAt_eq, h.kind?_eq hp, hf.merged]
  rw [hheld]
  constructor
  case gone =>
    rintro rfl rfl
    rw [mergedChange]
    split <;> rfl
  case there =>
    rintro rfl hne
    cases existed with
    | false => exact .inl rfl
    | true =>
      rw [mergedChange, if_neg hne]
      split
      · exact .inl rfl
      · exact .inr rfl
  case passing => rintro rfl rfl; rfl

/-- A file that is modified, removed and written anew is in the next batch as created, beside other
files and under another spelling. -/
theorem pending_net_change_rewritten : ∃ d es batch d', Debouncer.Gathered 300 d es ∧
    Debouncer.kindsOf es "/src/page.tsx" = [.modified, .removed, .created] ∧
    d.take? 1300 = some (batch, d') ∧
    (kindsAt batch "/src/page.tsx" = [.created] ∨ kindsAt batch "/src/page.tsx" = [.modified]) := by
  have h₀ : Debouncer.Gathered 300 (.new 300) [] := .new
  have h₁ := h₀.record 0 ⟨.modify .data, ["/src/a.ts", "/src//page.tsx"]⟩
  have h := (h₁.record 10 ⟨.remove, ["/src/page.tsx"]⟩).record 20
    ⟨.create, ["/src/./page.tsx", "/src/b.ts"]⟩
  have hp : isTemporary "/src/page.tsx" = false := by cbv
  have hf : FileHistory true [.modified, .removed, .created] true :=
    FileHistory.start.modified.removed.created
  have hk : Debouncer.kindsOf [⟨.modify .data, ["/src/a.ts", "/src//page.tsx"]⟩,
      ⟨.remove, ["/src/page.tsx"]⟩, ⟨.create, ["/src/./page.tsx", "/src/b.ts"]⟩] "/src/page.tsx" =
      [.modified, .removed, .created] := by cbv
  obtain ⟨hnet, hbatch⟩ := pending_net_change h hp (hk.symm ▸ hf)
  have htake {d : Debouncer} {es : List FileEvent} (_ : d.Gathered 300 es)
      (hr : d.isReady 1300 = true) : ∃ batch d', d.take? 1300 = some (batch, d') :=
    ⟨_, _, if_pos hr⟩
  obtain ⟨batch, d', ht⟩ := htake h (by cbv)
  refine ⟨_, _, batch, d', h, hk, ht, ?_⟩
  rw [hbatch 1300 batch d' ht]
  exact hnet.there rfl fun hn => by cases hk.symm.trans hn

/-- A file that was there and is removed, created again and removed again is not reported. -/
theorem removal_not_reported : ¬∀ (window : Nat) (d : Debouncer) (es : List FileEvent) (p : Path)
    (existed present : Bool), d.Gathered window es → isTemporary p = false →
    FileHistory existed (Debouncer.kindsOf es p) present →
      (existed = true → present = false → kindsAt d.pending p = [.removed]) ∧
      (present = true → Debouncer.kindsOf es p ≠ [] →
        kindsAt d.pending p = [.created] ∨ kindsAt d.pending p = [.modified]) ∧
      (existed = false → present = false → kindsAt d.pending p = []) := by
  intro hall
  have h₀ : Debouncer.Gathered 300 (.new 300) [] := .new
  have h₁ := h₀.record 0 ⟨.remove, ["/src/page.tsx"]⟩
  have h := (h₁.record 10 ⟨.create, ["/src/page.tsx"]⟩).record 20 ⟨.remove, ["/src/page.tsx"]⟩
  have hp : isTemporary "/src/page.tsx" = false := by cbv
  have hf : FileHistory true [.removed, .created, .removed] false :=
    FileHistory.start.removed.created.removed
  have hk : Debouncer.kindsOf [⟨.remove, ["/src/page.tsx"]⟩, ⟨.create, ["/src/page.tsx"]⟩,
      ⟨.remove, ["/src/page.tsx"]⟩] "/src/page.tsx" = [.removed, .created, .removed] := by cbv
  have hheld := (hall 300 _ _ "/src/page.tsx" true false h hp (hk.symm ▸ hf)).1 rfl rfl
  rw [h.distinct.kindsAt_eq, h.kind?_eq hp] at hheld
  have hnone : (Debouncer.kindsOf [⟨.remove, ["/src/page.tsx"]⟩, ⟨.create, ["/src/page.tsx"]⟩,
      ⟨.remove, ["/src/page.tsx"]⟩] "/src/page.tsx").foldl
        (fun pending kind => kind.onto pending) none = none := by rw [hk]; rfl
  cases hnone ▸ hheld

end DevServer
