import DevServer.Proofs.Change.Pending

/-!
# The order of paths

Paths are ordered component by component, and components that are names byte by byte. The order is
total, and the paths that it takes to be equal are the spellings of one path (`compare_eq_iff`). So
pending changes in path order, one a path, are in strictly ascending order
(`Pending.Distinct.sorted_ascending`).
-/

namespace DevServer

open Std

namespace Path

/-! ## Bytes and components -/

theorem compareBytes_eq (a b : Bytes) : compareBytes a b = Ord.compare a b := by
  induction a generalizing b with
  | nil => cases b <;> rfl
  | cons x xs ih =>
    cases b with
    | nil => rfl
    | cons y ys =>
      have hxy : Ord.compare x.toNat y.toNat = Ord.compare x y := by
        simp only [Ord.compare, compareOfLessAndEq, UInt8.lt_iff_toNat_lt, ← UInt8.toNat_inj]
      rw [compareBytes, ih, hxy]
      exact List.compareLex_cons_cons.symm

namespace Component

/-- The bytes of a name. -/
def bytes : Component → Bytes
  | .name bytes => bytes
  | .root | .current | .parent => []

/-- Components are compared by their ranks, and names by their bytes. -/
theorem compare_eq :
    Component.compare = compareLex (compareOn Component.rank) (compareOn Component.bytes) := by
  funext a b
  cases a <;> cases b
  case name.name a b =>
    rw [Component.compare, compareBytes_eq]
    simp [compareLex, compareOn, rank, bytes]
  all_goals rfl

instance : TransCmp Component.compare := by
  rw [compare_eq]
  infer_instance

instance : LawfulEqCmp Component.compare where
  eq_of_compare {a b} h := by
    rw [compare_eq] at h
    obtain ⟨hrank, hbytes⟩ := Ordering.then_eq_eq.mp h
    have hrank : a.rank = b.rank := LawfulEqCmp.eq_of_compare hrank
    have hbytes : a.bytes = b.bytes := LawfulEqCmp.eq_of_compare hbytes
    cases a <;> cases b
    case name.name => exact congrArg name hbytes
    all_goals first | rfl | cases hrank

end Component

/-! ## Paths -/

theorem compareComponents_eq : compareComponents = List.compareLex Component.compare := by
  funext a b
  induction a generalizing b with
  | nil => cases b <;> rfl
  | cons x xs ih =>
    cases b with
    | nil => rfl
    | cons y ys => rw [compareComponents, ih, List.compareLex_cons_cons]

instance : TransCmp compareComponents := by
  rw [compareComponents_eq]
  infer_instance

instance : LawfulEqCmp compareComponents := by
  rw [compareComponents_eq]
  infer_instance

theorem compare_swap (p q : Path) : p.compare q = (q.compare p).swap :=
  OrientedCmp.eq_swap (a := p.components) (b := q.components)

theorem compare_isLE_trans {p q r : Path} (hpq : (p.compare q).isLE = true)
    (hqr : (q.compare r).isLE = true) : (p.compare r).isLE = true :=
  TransCmp.isLE_trans (b := q.components) hpq hqr

/-- Paths that are neither before nor after one another are the same path. -/
theorem compare_eq_iff {p q : Path} : p.compare q = .eq ↔ p.same q = true := by
  rw [same_iff, compare, LawfulEqCmp.compare_eq_iff_eq]

end Path

/-! ## Changes in path order -/

/-- Each path comes before the paths behind it. -/
def Ascending (paths : List Path) : Prop := paths.Pairwise fun p q => p.compare q = .lt

namespace Pending

variable {pending : Pending}

theorem Distinct.perm {other : Pending} (h : pending.Distinct) (hp : pending.Perm other) :
    other.Distinct := by
  refine hp.pairwise h fun hab => ?_
  rw [Path.same_comm]
  exact hab

theorem Distinct.sorted_ascending (h : pending.Distinct) :
    Ascending (pending.sorted.map Change.path) := by
  have hle : pending.sorted.Pairwise fun a b => (a.path.compare b.path).isLE = true := by
    unfold sorted
    apply List.pairwise_mergeSort
    · intro a b c hab hbc
      exact Path.compare_isLE_trans hab hbc
    · intro a b
      rw [Path.compare_swap b.path]
      cases a.path.compare b.path <;> rfl
  have hne : Pending.Distinct pending.sorted := h.perm (List.mergeSort_perm ..).symm
  refine List.pairwise_map.mpr ((hle.and hne).imp fun {a b} hab => ?_)
  cases hc : a.path.compare b.path with
  | lt => rfl
  | eq => rw [Path.compare_eq_iff.mp hc] at hab; cases hab.2
  | gt => rw [hc] at hab; cases hab.1

theorem sorted_ne_nil (h : pending ≠ []) : pending.sorted ≠ [] := by
  intro hnil
  have hperm : pending.sorted.Perm pending := List.mergeSort_perm ..
  rw [hnil] at hperm
  exact h hperm.symm.eq_nil

end Pending

end DevServer
