import DevServer.Calendar
import Mathlib.Order.Monotone.Basic
import Mathlib.Tactic.IntervalCases

/-!
# Days and dates

The calendar is given by its leap years and the lengths of its months, and `Date.number` counts the
days by them. The date that is computed for a day is one of the calendar (`valid_civil`), and its
number is the day (`number_civil`).
-/

namespace DevServer.Date

/-! ## The calendar -/

/-- Every fourth year, but of those that end a century every fourth again. -/
def IsLeap (year : ℤ) : Prop := year % 4 = 0 ∧ (year % 100 ≠ 0 ∨ year % 400 = 0)

instance (year : ℤ) : Decidable (IsLeap year) := by
  unfold IsLeap
  infer_instance

def monthLength (year : ℤ) : ℕ → ℕ
  | 2 => if IsLeap year then 29 else 28
  | 4 | 6 | 9 | 11 => 30
  | _ => 31

theorem monthLength_le (year : ℤ) (month : ℕ) : monthLength year month ≤ 31 := by
  unfold monthLength
  split
  · split_ifs <;> decide
  all_goals decide

/-- The days of so many months from January on. -/
def monthsLength (year : ℤ) (months : ℕ) : ℕ :=
  ((List.range' 1 months).map (monthLength year)).sum

/-- The day on which a year begins, counted from 1970. -/
def yearStart (year : ℤ) : ℤ :=
  365 * (year - 1970) + ((year - 1) / 4 - (year - 1) / 100 + (year - 1) / 400) - 477

/-- The day of a date, counted from 1970. -/
def number (date : Date) : ℤ :=
  yearStart date.year + monthsLength date.year (date.month - 1) + (date.day - 1)

/-- The date is one of the calendar. -/
def Valid (date : Date) : Prop :=
  (1 ≤ date.month ∧ date.month ≤ 12) ∧ 1 ≤ date.day ∧ date.day ≤ monthLength date.year date.month

instance (date : Date) : Decidable date.Valid := by
  unfold Valid
  infer_instance

theorem yearStart_1970 : yearStart 1970 = 0 := by decide

/-- A year begins when the months of the year before have passed. -/
theorem yearStart_succ (year : ℤ) : yearStart (year + 1) = yearStart year + monthsLength year 12 := by
  have hlength : (monthsLength year 12 : ℤ) = if IsLeap year then 366 else 365 := by
    simp only [monthsLength, List.range', List.map, monthLength]
    split_ifs <;> rfl
  rw [hlength]
  unfold yearStart IsLeap
  split_ifs <;> omega

/-! ## Years of an era -/

/-- The day of an era on which a year from March begins. -/
def marchStart (y : ℕ) : ℕ := 365 * y + y / 4 - y / 100 + y / 400

theorem yearOfEra_mono : Monotone yearOfEra := by
  refine monotone_nat_of_le_succ fun d => Nat.div_le_div_right ?_
  omega

/-- The first and the last day of each year are in that year. -/
theorem yearOfEra_marchStart :
    ∀ y < 400, yearOfEra (marchStart y) = y ∧ yearOfEra (marchStart (y + 1) - 1) = y := by
  decide +kernel

/-- And so are the days between them. -/
theorem yearOfEra_bounds {d : ℕ} (h : d < 146097) : yearOfEra d < 400 ∧
    marchStart (yearOfEra d) ≤ d ∧ d < marchStart (yearOfEra d + 1) := by
  have hlt : yearOfEra d < 400 := Nat.lt_succ_of_le (yearOfEra_mono (Nat.le_of_lt_succ h))
  refine ⟨hlt, ?_, ?_⟩
  · by_contra hlow
    cases hy : yearOfEra d with
    | zero =>
      rw [hy] at hlow
      exact hlow (Nat.zero_le d)
    | succ y =>
      rw [hy] at hlow hlt
      have hle : yearOfEra d ≤ y := by
        rw [← (yearOfEra_marchStart y (by omega)).2]
        exact yearOfEra_mono (by omega)
      omega
  · by_contra hhigh
    by_cases hy : yearOfEra d + 1 < 400
    · have hle := yearOfEra_mono (not_lt.mp hhigh)
      rw [(yearOfEra_marchStart _ hy).1] at hle
      omega
    · rw [show yearOfEra d + 1 = 400 by omega] at hhigh
      exact hhigh h

/-! ## Days of a year from March -/

/-- The date so many days after the first of March. -/
def ofMarch (year : ℤ) (days : ℕ) : Date :=
  let m := (5 * days + 2) / 153
  ⟨if m < 10 then year else year + 1, if m < 10 then m + 3 else m - 9, days - (153 * m + 2) / 5 + 1⟩

/-- From March on, five months have 153 days. -/
theorem monthLength_march (year : ℤ) :
    ∀ m ≤ 9, (153 * m + 2) / 5 + monthLength year (m + 3) = (153 * (m + 1) + 2) / 5 := by
  intro m hm
  interval_cases m <;> rfl

theorem monthsLength_succ (year : ℤ) (m : ℕ) :
    monthsLength year (m + 1) = monthsLength year m + monthLength year (m + 1) := by
  simp [monthsLength, List.range'_concat, Nat.add_comm]

theorem monthsLength_march (year : ℤ) {m : ℕ} (hm : m ≤ 10) :
    monthsLength year (m + 2) = monthsLength year 2 + (153 * m + 2) / 5 := by
  induction m with
  | zero => rfl
  | succ m ih =>
    have hlength : (153 * m + 2) / 5 + monthLength year (m + 2 + 1) = (153 * (m + 1) + 2) / 5 :=
      monthLength_march year m (by omega)
    rw [monthsLength_succ, ih (by omega)]
    omega

theorem monthsLength_two_le (year : ℤ) : monthsLength year 2 ≤ 60 := by
  rw [show monthsLength year 2 = 31 + monthLength year 2 from rfl, monthLength]
  split_ifs <;> decide

theorem number_ofMarch {year : ℤ} {days : ℕ} (h : days < 366) :
    number (ofMarch year days) = yearStart (year + 1) - 306 + days := by
  have hyear := yearStart_succ year
  rw [monthsLength_march year (m := 10) le_rfl] at hyear
  unfold number ofMarch
  dsimp only
  split_ifs with hm
  · rw [show (5 * days + 2) / 153 + 3 - 1 = (5 * days + 2) / 153 + 2 by omega,
      monthsLength_march year (by omega)]
    omega
  · obtain hjan | hfeb : (5 * days + 2) / 153 = 10 ∨ (5 * days + 2) / 153 = 11 := by omega
    · rw [hjan, show monthsLength (year + 1) (10 - 9 - 1) = 0 from rfl]
      omega
    · rw [hfeb, show monthsLength (year + 1) (11 - 9 - 1) = 31 from rfl]
      omega

theorem valid_ofMarch {year : ℤ} {days : ℕ} (h : days < 306 + monthsLength (year + 1) 2) :
    (ofMarch year days).Valid := by
  have hlength : monthsLength (year + 1) 2 = 31 + monthLength (year + 1) 2 := rfl
  have hfeb := monthsLength_two_le (year + 1)
  unfold Valid ofMarch
  dsimp only
  split_ifs with hm
  · have := monthLength_march year ((5 * days + 2) / 153) (by omega)
    omega
  · obtain hm | hm : (5 * days + 2) / 153 = 10 ∨ (5 * days + 2) / 153 = 11 := by omega
    · rw [hm, show monthLength (year + 1) (10 - 9) = 31 from rfl]
      omega
    · rw [hm, show 11 - 9 = 2 from rfl]
      omega

/-! ## The date of a day -/

/-- The calendar repeats itself with every era. -/
theorem yearStart_era (y : ℕ) (era : ℤ) :
    yearStart (y + era * 400 + 1) = era * 146097 + marchStart y - (marchEpoch - 306) := by
  have hfour : ((y : ℤ) + era * 400) / 4 = y / 4 + era * 100 := by omega
  have hcentury : ((y : ℤ) + era * 400) / 100 = y / 100 + era * 4 := by omega
  have hera : ((y : ℤ) + era * 400) / 400 = y / 400 + era := by omega
  unfold yearStart marchStart
  rw [add_sub_cancel_right, hfour, hcentury, hera, marchEpoch]
  omega

/-- From one March to the next a year has ten months, and January and February of the next year. -/
theorem marchStart_succ (y : ℕ) (era : ℤ) :
    marchStart (y + 1) = marchStart y + (306 + monthsLength (y + era * 400 + 1) 2) := by
  have hyear := yearStart_succ (y + era * 400 + 1)
  have hnext := yearStart_era (y + 1) era
  rw [monthsLength_march (m := 10) _ le_rfl, yearStart_era] at hyear
  rw [show ((y + 1 : ℕ) : ℤ) + era * 400 + 1 = y + era * 400 + 1 + 1 by omega,
    hyear] at hnext
  omega

/-- Every day is one of a year from March. -/
theorem civil_eq_ofMarch (day : ℤ) : ∃ (year : ℤ) (days : ℕ), civil day = ofMarch year days ∧
    day = yearStart (year + 1) - 306 + days ∧ days < 306 + monthsLength (year + 1) 2 := by
  obtain ⟨era, hera⟩ : ∃ era, era = (day + marchEpoch) / 146097 := ⟨_, rfl⟩
  obtain ⟨d, hd⟩ : ∃ d : ℕ, (d : ℤ) = day + marchEpoch - era * 146097 :=
    ⟨_, Int.toNat_of_nonneg (by omega)⟩
  obtain ⟨hy, hlow, hhigh⟩ := yearOfEra_bounds (d := d) (by omega)
  obtain ⟨y, hdef⟩ : ∃ y, y = yearOfEra d := ⟨_, rfl⟩
  rw [← hdef, marchStart_succ y era] at hhigh
  rw [← hdef] at hy hlow
  have hfeb := monthsLength_two_le (y + era * 400 + 1)
  refine ⟨y + era * 400, d - marchStart y, ?_, ?_, by omega⟩
  · have hfdiv : (day + marchEpoch).fdiv 146097 = era := by
      rw [hera, Int.fdiv_eq_ediv_of_nonneg _ (by decide)]
    have hstart : 365 * y + y / 4 - y / 100 = marchStart y := by
      unfold marchStart
      omega
    have hmonth {m : ℕ} (hm : m ≤ 11) : (if m < 10 then m + 3 else m - 9) ≤ 2 ↔ ¬m < 10 := by
      split_ifs <;> omega
    have hmonth := hmonth (m := (5 * (d - marchStart y) + 2) / 153) (by omega)
    unfold civil ofMarch
    simp only [hfdiv, ← hd, Int.toNat_natCast, ← hdef, hstart, hmonth, ite_not]
  · rw [yearStart_era]
    omega

theorem valid_civil (day : ℤ) : (civil day).Valid := by
  obtain ⟨year, days, hcivil, -, hlt⟩ := civil_eq_ofMarch day
  rw [hcivil]
  exact valid_ofMarch hlt

/-- **The number of the date of a day is the day.** -/
theorem number_civil (day : ℤ) : (civil day).number = day := by
  obtain ⟨year, days, hcivil, hday, hlt⟩ := civil_eq_ofMarch day
  have hfeb := monthsLength_two_le (year + 1)
  rw [hcivil, number_ofMarch (by omega), ← hday]

end DevServer.Date
