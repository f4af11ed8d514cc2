import DevServer.Proofs.Json.Grammar
import Mathlib.Algebra.Order.Field.Power
import Mathlib.Algebra.Order.AbsoluteValue.Basic
import Mathlib.Tactic.Linarith
import Mathlib.Tactic.NormNum
import Mathlib.Tactic.Positivity
import Mathlib.Tactic.Ring

/-!
# How numbers are read

A number is read in three steps that each lose a little: its digits as far as they fit a word, these
rounded to 53 bits, and the power of ten rounded to 53 bits. The product is close to what is written
(`abs_rounded_sub_le`), so that only a number near the bound may be taken for one on its other side
(`Number.finite_of_lt`, `Number.lt_of_finite`).
-/

namespace DevServer.Json

/-! ## What is written -/

namespace Number

/-- The signed power of ten. -/
def power (n : Number) : Int :=
  match n.exponent with
  | none => 0
  | some (negative, digits) =>
    let e : Int := Nat.ofDigitChars 10 digits 0
    if negative then -e else e

/-- The number itself, without its sign. -/
def magnitude (n : Number) : ℚ :=
  (Nat.ofDigitChars 10 (n.whole ++ n.fraction.getD []) 0 : ℚ) *
    10 ^ (n.power - (n.fraction.getD []).length)

end Number

/-! ## Digits that fit a word -/

open Number

theorem digitValue_le {c : Char} (hc : c.isDigit = true) : digitValue c ≤ 9 := by
  have hle := (isDigit_iff.mp hc).2
  have hzero : '0'.toNat = 48 := rfl
  unfold digitValue
  omega

/-- More digits put a number into one of the intervals of their power of ten. -/
theorem ofDigitChars_bounds {ds : List Char} (hd : ∀ c ∈ ds, c.isDigit = true) (n : ℕ) :
    n * 10 ^ ds.length ≤ Nat.ofDigitChars 10 ds n ∧
      Nat.ofDigitChars 10 ds n < (n + 1) * 10 ^ ds.length := by
  induction ds generalizing n with
  | nil => simp
  | cons c cs ih =>
    obtain ⟨hc, hcs⟩ := List.forall_mem_cons.mp hd
    have hle : c.toNat - '0'.toNat ≤ 9 := digitValue_le hc
    obtain ⟨hlow, hhigh⟩ := ih hcs (10 * n + (c.toNat - '0'.toNat))
    rw [Nat.ofDigitChars_cons, List.length_cons]
    constructor
    · calc n * 10 ^ (cs.length + 1) = (10 * n) * 10 ^ cs.length := by ring
        _ ≤ (10 * n + (c.toNat - '0'.toNat)) * 10 ^ cs.length :=
          Nat.mul_le_mul_right _ (Nat.le_add_right _ _)
        _ ≤ _ := hlow
    · calc _ < (10 * n + (c.toNat - '0'.toNat) + 1) * 10 ^ cs.length := hhigh
        _ ≤ (10 * (n + 1)) * 10 ^ cs.length := Nat.mul_le_mul_right _ (by omega)
        _ = (n + 1) * 10 ^ (cs.length + 1) := by ring

theorem fill_le {cs : List Char} {n : ℕ} (h : n ≤ maxWord) : (fill n cs).1 ≤ maxWord := by
  fun_induction fill n cs with
  | case1 => exact h
  | case2 _ _ _ _ hle ih => exact ih hle
  | case3 => exact h

/-- The digits taken are the first ones; where some are left, the word is nearly full. -/
theorem fill_eq {cs : List Char} (hd : ∀ c ∈ cs, c.isDigit = true) (n : ℕ) :
    ∃ taken, cs = taken ++ (fill n cs).2 ∧ (fill n cs).1 = Nat.ofDigitChars 10 taken n ∧
      ((fill n cs).2 ≠ [] → 2 ^ 60 ≤ (fill n cs).1) := by
  fun_induction fill n cs with
  | case1 n => exact ⟨[], rfl, rfl, fun h => absurd rfl h⟩
  | case2 n c cs next hle ih =>
    obtain ⟨taken, hcs, hv, hfull⟩ := ih (List.forall_mem_cons.mp hd).2
    refine ⟨c :: taken, by rw [List.cons_append, ← hcs], ?_, hfull⟩
    rw [hv, Nat.ofDigitChars_cons, Nat.mul_comm]
    rfl
  | case3 n c cs next hlt =>
    refine ⟨[], rfl, rfl, fun _ => ?_⟩
    have hc := digitValue_le (List.forall_mem_cons.mp hd).1
    have hmax : maxWord = 2 ^ 64 - 1 := rfl
    show 2 ^ 60 ≤ n
    omega

/-- Two numbers in one of the intervals of a power of ten. -/
theorem abs_sub_le_of_bounds {h k d v : ℕ} (hfull : 2 ^ 60 ≤ h)
    (hd : h * 10 ^ k ≤ d ∧ d < (h + 1) * 10 ^ k) (hv : h * 10 ^ k ≤ v ∧ v < (h + 1) * 10 ^ k) :
    |(d : ℚ) - v| ≤ v / 2 ^ 60 := by
  have hfull : 2 ^ 60 * 10 ^ k ≤ h * 10 ^ k := Nat.mul_le_mul_right _ hfull
  have hsucc : (h + 1) * 10 ^ k = h * 10 ^ k + 10 ^ k := Nat.succ_mul _ _
  have hdv : (d : ℚ) ≤ v + 10 ^ k := by exact_mod_cast (by omega : d ≤ v + 10 ^ k)
  have hvd : (v : ℚ) ≤ d + 10 ^ k := by exact_mod_cast (by omega : v ≤ d + 10 ^ k)
  have hv' : (2 ^ 60 * 10 ^ k : ℚ) ≤ v := by exact_mod_cast hfull.trans hv.1
  rw [abs_le, le_div_iff₀ (by norm_num), neg_le, le_div_iff₀ (by norm_num)]
  constructor <;> linarith

/-- All digits of the number are digits. -/
def Number.WellFormed (n : Number) : Prop :=
  (∀ c ∈ n.whole, c.isDigit = true) ∧ ∀ c ∈ n.fraction.getD [], c.isDigit = true

theorem NumberText.wellFormed {t : List Char} {n : Number} (h : NumberText t n) : n.WellFormed := by
  obtain ⟨negative, ⟨⟨-, hd⟩, -⟩, hf, -⟩ := h
  refine ⟨hd, ?_⟩
  cases hf with
  | absent => exact List.forall_mem_nil _
  | digits hf => exact hf.2

/-- Digits that are left out after a word is nearly full. -/
theorem abs_ofDigitChars_sub_le {ds : List Char} (hd : ∀ c ∈ ds, c.isDigit = true) {n : ℕ}
    (hfull : ds ≠ [] → 2 ^ 60 ≤ n) :
    |(Nat.ofDigitChars 10 ds n : ℚ) - (n * 10 ^ ds.length : ℕ)| ≤
      (n * 10 ^ ds.length : ℕ) / 2 ^ 60 := by
  by_cases hne : ds = []
  · subst hne
    simpa using div_nonneg n.cast_nonneg (by norm_num)
  · refine abs_sub_le_of_bounds (hfull hne) (ofDigitChars_bounds hd n) ⟨le_rfl, ?_⟩
    exact Nat.mul_lt_mul_of_pos_right (Nat.lt_succ_self n) (by positivity)

/-- Digits of which some are left out in the middle after a word is nearly full. -/
theorem abs_ofDigitChars_append_sub_le {dropped taken unread : List Char}
    (hd : ∀ c ∈ dropped ++ (taken ++ unread), c.isDigit = true) {n : ℕ} (hfull : 2 ^ 60 ≤ n) :
    |(Nat.ofDigitChars 10 (dropped ++ (taken ++ unread)) n : ℚ) -
        (Nat.ofDigitChars 10 taken n * 10 ^ (dropped.length + unread.length) : ℕ)| ≤
      (Nat.ofDigitChars 10 taken n * 10 ^ (dropped.length + unread.length) : ℕ) / 2 ^ 60 := by
  have htaken : ∀ c ∈ taken, c.isDigit = true := fun c hc =>
    hd c (List.mem_append_right _ (List.mem_append_left _ hc))
  obtain ⟨hlow, hhigh⟩ := ofDigitChars_bounds htaken n
  have hpow : ∀ k, k * 10 ^ (dropped ++ (taken ++ unread)).length =
      k * 10 ^ taken.length * 10 ^ (dropped.length + unread.length) := fun k => by
    rw [List.length_append, List.length_append]
    ring
  refine abs_sub_le_of_bounds hfull (ofDigitChars_bounds hd n) ?_
  rw [hpow, hpow]
  exact ⟨Nat.mul_le_mul_right _ hlow, Nat.mul_lt_mul_of_pos_right hhigh (by positivity)⟩

/-- Of the digits a multiple of a power of ten is read that is close to what they write. -/
theorem exists_scaled {n : Number} (h : n.WellFormed) : ∃ m : ℕ,
    n.scaled.2 = n.power - (n.fraction.getD []).length + m ∧
      |(Nat.ofDigitChars 10 (n.whole ++ n.fraction.getD []) 0 : ℚ) - (n.scaled.1 * 10 ^ m : ℕ)| ≤
        (n.scaled.1 * 10 ^ m : ℕ) / 2 ^ 60 := by
  obtain ⟨hw, ht⟩ := h
  obtain ⟨kept, hwhole, hkept, hfull⟩ := fill_eq hw 0
  obtain ⟨taken, htail, htaken, hfull'⟩ := fill_eq ht (fill 0 n.whole).1
  have hscaled : n.scaled = ((fill (fill 0 n.whole).1 (n.fraction.getD [])).1,
      (fill 0 n.whole).2.length - ((n.fraction.getD []).length -
        (fill (fill 0 n.whole).1 (n.fraction.getD [])).2.length : ℕ) + n.power) := rfl
  rw [hscaled]
  generalize fill 0 n.whole = high at *
  generalize fill high.1 (n.fraction.getD []) = read at *
  generalize n.fraction.getD [] = tail at *
  refine ⟨high.2.length + read.2.length, ?_, ?_⟩
  · have hlength : tail.length = taken.length + read.2.length := by
      rw [htail, List.length_append]
    omega
  · have hd : ∀ c ∈ high.2 ++ (taken ++ read.2), c.isDigit = true := by
      rw [hwhole] at hw
      exact List.forall_mem_append.mpr ⟨(List.forall_mem_append.mp hw).2, htail ▸ ht⟩
    have hvalue : Nat.ofDigitChars 10 (n.whole ++ tail) 0 =
        Nat.ofDigitChars 10 (high.2 ++ (taken ++ read.2)) high.1 := by
      rw [hwhole, List.append_assoc, Nat.ofDigitChars_append, ← hkept, ← htail]
    rw [hvalue]
    by_cases hdropped : high.2 = []
    · rw [hdropped, List.nil_append, List.length_nil, Nat.zero_add, Nat.ofDigitChars_append,
        ← htaken]
      exact abs_ofDigitChars_sub_le (fun c hc => ht c (htail ▸ List.mem_append_right _ hc)) hfull'
    · rw [htaken]
      exact abs_ofDigitChars_append_sub_le hd (hfull hdropped)

/-- What is read of a number, before anything is rounded. -/
def Number.scaledValue (n : Number) : ℚ := n.scaled.1 * 10 ^ n.scaled.2

theorem abs_magnitude_sub_le {n : Number} (h : n.WellFormed) :
    |n.magnitude - n.scaledValue| ≤ n.scaledValue / 2 ^ 60 := by
  obtain ⟨m, he, hm⟩ := exists_scaled h
  have hpos : (0 : ℚ) < 10 ^ (n.power - (n.fraction.getD []).length) := by positivity
  have hvalue : n.scaledValue = (n.scaled.1 * 10 ^ m : ℕ) *
      10 ^ (n.power - (n.fraction.getD []).length) := by
    rw [Number.scaledValue, he, add_comm, zpow_add₀ (by norm_num), zpow_natCast]
    push_cast
    ring
  rw [hvalue, Number.magnitude, ← sub_mul, abs_mul, abs_of_pos hpos, mul_div_right_comm]
  exact mul_le_mul_of_nonneg_right hm hpos.le

theorem scaled_le {n : Number} : n.scaled.1 ≤ maxWord :=
  fill_le (fill_le (Nat.zero_le _))

/-! ## Rounding -/

/-- Rounding moves a number by half a unit at most, and it has 53 bits above the unit. -/
theorem abs_round53_sub_le (n : ℕ) : |(round53 n : ℚ) - n| ≤ n / 2 ^ 53 := by
  unfold round53
  split
  · rw [sub_self, abs_zero]
    positivity
  · next hbig =>
    have hne : n ≠ 0 := by rintro rfl; exact hbig (by decide)
    have hlog : 52 ≤ n.log2 := (Nat.le_log2 hne).mpr (by
      have : Nat.pow 2 53 = 2 ^ 53 := rfl
      omega)
    have hunit : Nat.pow 2 (n.log2 - 52) * 2 ^ 52 ≤ n :=
      calc Nat.pow 2 (n.log2 - 52) * 2 ^ 52 = 2 ^ (n.log2 - 52 + 52) := (pow_add 2 _ _).symm
        _ = 2 ^ n.log2 := by rw [Nat.sub_add_cancel hlog]
        _ ≤ n := Nat.log2_self_le hne
    have hpos : 0 < Nat.pow 2 (n.log2 - 52) := Nat.pow_pos (by decide)
    generalize Nat.pow 2 (n.log2 - 52) = unit at *
    have hn : n / unit * unit + n % unit = n := Nat.div_add_mod' n unit
    have hrest : n % unit < unit := Nat.mod_lt n hpos
    have hhalf : ∀ r : ℕ, 2 * r ≤ 2 * n + unit → 2 * n ≤ 2 * r + unit →
        |(r : ℚ) - n| ≤ n / 2 ^ 53 := fun r hr hr' => by
      have hr : (2 * r : ℚ) ≤ 2 * n + unit := by exact_mod_cast hr
      have hr' : (2 * n : ℚ) ≤ 2 * r + unit := by exact_mod_cast hr'
      have hunit' : (unit * 2 ^ 52 : ℚ) ≤ n := by exact_mod_cast hunit
      rw [abs_le]
      constructor <;> linarith
    dsimp only
    generalize n / unit * unit = low at *
    split <;> exact hhalf _ (by omega) (by omega)

/-- Rounding both factors of a product. -/
theorem abs_round53_mul_sub_le (a b : ℕ) :
    |(round53 a * round53 b : ℚ) - a * b| ≤ a * b * (2 / 2 ^ 53 + 1 / 2 ^ 106) := by
  obtain ⟨ha, ha'⟩ := abs_le.mp (abs_round53_sub_le a)
  obtain ⟨hb, hb'⟩ := abs_le.mp (abs_round53_sub_le b)
  have hlow : (a * (1 - 1 / 2 ^ 53) * (b * (1 - 1 / 2 ^ 53)) : ℚ) ≤ round53 a * round53 b :=
    mul_le_mul (by linarith) (by linarith) (mul_nonneg b.cast_nonneg (by norm_num))
      (Nat.cast_nonneg _)
  have hhigh : (round53 a * round53 b : ℚ) ≤ a * (1 + 1 / 2 ^ 53) * (b * (1 + 1 / 2 ^ 53)) :=
    mul_le_mul (by linarith) (by linarith) (Nat.cast_nonneg _)
      (mul_nonneg a.cast_nonneg (by norm_num))
  have hab : (0 : ℚ) ≤ a * b := by positivity
  rw [abs_le]
  constructor <;> linarith

/-! ## The bound -/

section
variable {n : Number}

theorem overflows_iff : n.overflows = true ↔ ∃ e : ℕ, n.scaled.2 = e ∧ n.scaled.1 ≠ 0 ∧
    (308 < e ∨ infinityBound ≤ round53 n.scaled.1 * round53 (Nat.pow 10 e)) := by
  unfold Number.overflows
  split
  · next sig e hs => simp [hs]
  · next sig e hs =>
    rw [hs]
    refine ⟨nofun, ?_⟩
    rintro ⟨e', he, -⟩
    cases he

theorem scaledValue_nonneg : 0 ≤ n.scaledValue := by
  unfold Number.scaledValue
  positivity

/-- The product that is compared with the bound is close to the number. -/
theorem abs_rounded_sub_le (h : n.WellFormed) {e : ℕ} (he : n.scaled.2 = e) :
    |(round53 n.scaled.1 * round53 (Nat.pow 10 e) : ℚ) - n.magnitude| ≤
      n.magnitude * 3 / 2 ^ 53 := by
  obtain ⟨hm, hm'⟩ := abs_le.mp (abs_magnitude_sub_le h)
  obtain ⟨hp, hp'⟩ := abs_le.mp (abs_round53_mul_sub_le n.scaled.1 (Nat.pow 10 e))
  have hvalue : n.scaledValue = n.scaled.1 * (Nat.pow 10 e : ℕ) := by
    rw [Number.scaledValue, he, zpow_natCast, Nat.pow_eq]
    push_cast
    rfl
  have hnonneg : 0 ≤ n.scaledValue := scaledValue_nonneg
  rw [← hvalue] at hp hp'
  rw [abs_le]
  constructor <;> linarith

theorem infinityBound_pos : (0 : ℚ) < infinityBound := by
  have h : 0 < infinityBound := by decide +kernel
  exact_mod_cast h

/-- With a large exponent the number is far above the bound. -/
theorem lt_magnitude_of_large (h : n.WellFormed) {e : ℕ} (he : n.scaled.2 = e)
    (hsig : n.scaled.1 ≠ 0) (hlarge : 308 < e) : (infinityBound : ℚ) < n.magnitude := by
  obtain ⟨hm, -⟩ := abs_le.mp (abs_magnitude_sub_le h)
  obtain ⟨k, hk, hbound⟩ : ∃ k ≤ 309, 2 * infinityBound ≤ 10 ^ k := ⟨309, le_rfl, by decide +kernel⟩
  have hnat : 2 * infinityBound ≤ n.scaled.1 * 10 ^ e :=
    calc 2 * infinityBound ≤ 10 ^ k := hbound
      _ ≤ 10 ^ e := Nat.pow_le_pow_right (by decide) (hk.trans hlarge)
      _ ≤ n.scaled.1 * 10 ^ e := Nat.le_mul_of_pos_left _ (Nat.pos_of_ne_zero hsig)
  have hvalue : (2 * infinityBound : ℚ) ≤ n.scaledValue := by
    rw [Number.scaledValue, he, zpow_natCast]
    exact_mod_cast hnat
  linarith [infinityBound_pos]

/-- With a negative exponent the number is far below the bound. -/
theorem magnitude_lt_of_negative (h : n.WellFormed) (he : n.scaled.2 < 0) :
    n.magnitude < infinityBound := by
  obtain ⟨-, hm⟩ := abs_le.mp (abs_magnitude_sub_le h)
  have hbound : 2 * maxWord < infinityBound := by decide +kernel
  have hvalue : n.scaledValue ≤ maxWord :=
    calc n.scaledValue ≤ n.scaled.1 * 1 := by
          refine mul_le_mul_of_nonneg_left ?_ (Nat.cast_nonneg _)
          exact zpow_le_one_of_nonpos₀ (by norm_num) he.le
      _ ≤ maxWord := by
          rw [mul_one]
          exact_mod_cast scaled_le
  have hbound : (2 * maxWord : ℚ) < infinityBound := by exact_mod_cast hbound
  have hnonneg : 0 ≤ n.scaledValue := scaledValue_nonneg
  linarith

/-- **Only a number near the bound, or above it, overflows.** -/
theorem Number.finite_of_lt (h : n.WellFormed)
    (hm : n.magnitude < (1 - 1 / 2 ^ 51) * infinityBound) : n.Finite := by
  have hpos := infinityBound_pos
  by_contra hf
  obtain ⟨e, he, hsig, hlarge | hlarge⟩ := overflows_iff.mp (Bool.eq_true_of_not_eq_false hf)
  · have := lt_magnitude_of_large h he hsig hlarge
    linarith
  · obtain ⟨-, hp⟩ := abs_le.mp (abs_rounded_sub_le h he)
    have hlarge : (infinityBound : ℚ) ≤ round53 n.scaled.1 * round53 (Nat.pow 10 e) := by
      exact_mod_cast hlarge
    linarith

/-- **Every number above the bound overflows, but near it.** -/
theorem Number.lt_of_finite (h : n.WellFormed) (hf : n.Finite) :
    n.magnitude < (1 + 1 / 2 ^ 51) * infinityBound := by
  have hpos := infinityBound_pos
  by_contra hm
  have hnonneg : 0 ≤ n.scaled.2 := by
    by_contra he
    have := magnitude_lt_of_negative h (not_le.mp he)
    linarith
  obtain ⟨e, he⟩ := Int.eq_ofNat_of_zero_le hnonneg
  obtain ⟨hp, -⟩ := abs_le.mp (abs_rounded_sub_le h he)
  have hsig : n.scaled.1 ≠ 0 := by
    intro hzero
    have hvalue : n.scaledValue = 0 := by rw [Number.scaledValue, hzero]; simp
    have := abs_le.mp (abs_magnitude_sub_le h)
    rw [hvalue] at this
    linarith [this.2]
  have hlarge : (infinityBound : ℚ) ≤ round53 n.scaled.1 * round53 (Nat.pow 10 e) := by linarith
  have ho : n.overflows = true :=
    overflows_iff.mpr ⟨e, he, hsig, .inr (by exact_mod_cast hlarge)⟩
  exact absurd (ho.symm.trans hf) (by decide)

end

end DevServer.Json
