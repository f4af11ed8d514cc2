import DevServer.Proofs.Calendar.Dates
import DevServer.Proofs.Json.Writing

/-!
# Reading timestamps

`ofRfc3339?` reads a timestamp in universal time: a date of the calendar, a time of the day, and a
fraction of three, six or nine digits if there is one. The second 60 is a leap second. Every instant
is read back from its text (`ofRfc3339?_rfc3339`).
-/

namespace DevServer.Instant

open Json Text

/-- A leap second is the last of its minute. Clocks can also hold leap seconds after other seconds,
which are not valid: their timestamps are those of instants one second later. -/
def Valid (i : Instant) : Prop :=
  i.nanos < 2 * 10 ^ 9 ∧ (10 ^ 9 ≤ i.nanos → i.seconds % 60 = 59)

/-! ## The reader -/

/-- All digits that are next, as many as asked for. -/
def readDigits? (count : ℕ → Bool) : Reader (List Char) := fun s => do
  let (ds, s) ← readDigits s
  if count ds.length then return (ds, s) else none

def value (ds : List Char) : ℕ := Nat.ofDigitChars 10 ds 0

/-- Four digits, or a sign and at least four. -/
def readYear? : Reader ℤ
  | '-' :: s => (readDigits? (4 ≤ ·) s).map fun (ds, s) => (-(value ds : ℤ), s)
  | '+' :: s => (readDigits? (4 ≤ ·) s).map fun (ds, s) => ((value ds : ℤ), s)
  | s => (readDigits? (· = 4) s).map fun (ds, s) => ((value ds : ℤ), s)

/-- Two digits behind a separator. -/
def readField? (separator : Char) : Reader ℕ
  | c :: s =>
    if c = separator then (readDigits? (· = 2) s).map fun (ds, s) => (value ds, s) else none
  | [] => none

/-- A fraction in nanoseconds. -/
def readFraction? : Reader ℕ
  | '.' :: s =>
    (readDigits? (· ∈ [3, 6, 9]) s).map fun (ds, s) => (value ds * 10 ^ (9 - ds.length), s)
  | s => some (0, s)

/-- The instant of a date and a time of the day. -/
def ofClock? (date : Date) (hour minute second nanos : ℕ) : Option Instant :=
  if date.Valid ∧ hour < 24 ∧ minute < 60 ∧ second ≤ 60 then
    let seconds := date.number * 86400 + hour * 3600 + minute * 60
    some (if second = 60 then ⟨seconds + 59, nanos + 10 ^ 9⟩ else ⟨seconds + second, nanos⟩)
  else none

/-- The instant of a timestamp. -/
def ofRfc3339? (text : String) : Option Instant := do
  let (year, s) ← readYear? text.toList
  let (month, s) ← readField? '-' s
  let (day, s) ← readField? '-' s
  let (hour, s) ← readField? 'T' s
  let (minute, s) ← readField? ':' s
  let (second, s) ← readField? ':' s
  let (nanos, s) ← readFraction? s
  if s = ['Z'] then ofClock? ⟨year, month, day⟩ hour minute second nanos else none

/-! ## Digits -/

section
variable {width n : ℕ} {count : ℕ → Bool} {rest : List Char}

theorem digits_padded (width n : ℕ) : Digits (padded width n) := by
  obtain ⟨hne, hdigits⟩ := Number.digits_toDigits n
  refine ⟨List.append_ne_nil_of_right_ne_nil _ hne, List.forall_mem_append.mpr ⟨?_, hdigits⟩⟩
  intro c hc
  rw [List.eq_of_mem_replicate hc]
  rfl

theorem value_padded (width n : ℕ) : value (padded width n) = n := by
  rw [value, padded, Nat.ofDigitChars_append, Nat.ofDigitChars_replicate_zero, Nat.mul_zero,
    Nat.ofDigitChars_ten_toDigits]

theorem le_length_padded (width n : ℕ) : width ≤ (padded width n).length := by
  rw [padded, List.length_append, List.length_replicate]
  omega

theorem length_padded (hw : 0 < width) (h : n < 10 ^ width) : (padded width n).length = width := by
  have hle := (Nat.length_toDigits_le_iff (b := 10) (by decide) hw).mpr h
  rw [padded, List.length_append, List.length_replicate]
  omega

theorem readDigits?_padded (hc : count (padded width n).length = true) (hr : NoDigit rest) :
    readDigits? count (padded width n ++ rest) = some (padded width n, rest) := by
  have hread : readDigits (padded width n ++ rest) = some (padded width n, rest) :=
    readDigits_eq_some_iff.mpr ⟨rfl, digits_padded width n, hr⟩
  simp [readDigits?, hread, hc]

theorem noDigit_cons {c : Char} (hc : c.isDigit = false) (s : List Char) : NoDigit (c :: s) := by
  rintro _ ⟨⟩
  exact hc

end

/-! ## Parts of a timestamp -/

section
variable {rest : List Char}

theorem readYear?_of_digit {c : Char} (hc : c.isDigit = true) (s : List Char) :
    readYear? (c :: s) = (readDigits? (· = 4) (c :: s)).map fun (ds, s) => ((value ds : ℤ), s) := by
  refine readYear?.eq_3 _ ?_ ?_
  all_goals
    rintro _ heq
    rw [(List.cons.inj heq).1] at hc
    revert hc
    decide

theorem readYear?_yearText (y : ℤ) (hr : NoDigit rest) :
    readYear? (yearText y ++ rest) = some (y, rest) := by
  unfold yearText
  split
  · next hy =>
    obtain ⟨hne, hdigits⟩ := digits_padded 4 y.toNat
    obtain ⟨c, s, hcs⟩ := List.exists_cons_of_ne_nil hne
    have hlength : (padded 4 y.toNat).length = 4 := length_padded (by decide) (by omega)
    have hread : readDigits? (· = 4) (padded 4 y.toNat ++ rest) = some (padded 4 y.toNat, rest) :=
      readDigits?_padded (decide_eq_true hlength) hr
    rw [hcs, List.cons_append] at hread ⊢
    rw [readYear?_of_digit (hdigits c (by rw [hcs]; exact List.mem_cons_self ..)), hread, ← hcs]
    simp only [Option.map_some, value_padded, Int.toNat_of_nonneg hy.1]
  · next hy =>
    have hread : readDigits? (4 ≤ ·) (padded 4 y.natAbs ++ rest) =
        some (padded 4 y.natAbs, rest) :=
      readDigits?_padded (decide_eq_true (le_length_padded 4 y.natAbs)) hr
    split
    · next hneg =>
      simp only [List.cons_append, readYear?, hread, Option.map_some, value_padded]
      rw [Int.ofNat_natAbs_of_nonpos hneg.le, neg_neg]
    · next hpos =>
      simp only [List.cons_append, readYear?, hread, Option.map_some, value_padded]
      rw [Int.natAbs_of_nonneg (not_lt.mp hpos)]

theorem readField?_padded {c : Char} {n : ℕ} (h : n < 100) (hr : NoDigit rest) :
    readField? c (c :: (padded 2 n ++ rest)) = some (n, rest) := by
  have hlength : (padded 2 n).length = 2 := length_padded (by decide) (by omega)
  have hread : readDigits? (· = 2) (padded 2 n ++ rest) = some (padded 2 n, rest) :=
    readDigits?_padded (decide_eq_true hlength) hr
  simp only [readField?, if_true, hread, Option.map_some, value_padded]

theorem readFraction?_padded {width n : ℕ} (hw : width ∈ [3, 6, 9]) (hn : n < 10 ^ width)
    (hr : NoDigit rest) : readFraction? ('.' :: (padded width n ++ rest)) =
      some (n * 10 ^ (9 - width), rest) := by
  have hpos : ∀ w ∈ [3, 6, 9], 0 < w := by decide
  have hlength : (padded width n).length = width := length_padded (hpos width hw) hn
  have hread : readDigits? (· ∈ [3, 6, 9]) (padded width n ++ rest) =
      some (padded width n, rest) := readDigits?_padded (decide_eq_true (by rwa [hlength])) hr
  simp only [readFraction?, hread, Option.map_some, value_padded, hlength]

theorem readFraction?_fractionText {nanos : ℕ} (h : nanos < 10 ^ 9) :
    readFraction? (fractionText nanos ++ ['Z']) = some (nanos, ['Z']) := by
  have hr : NoDigit ['Z'] := noDigit_cons (by decide) []
  unfold fractionText
  split_ifs with h0 h3 h6
  · rw [h0]
    rfl
  · rw [List.cons_append, readFraction?_padded (by decide) (by omega) hr]
    exact congrArg (fun n => some (n, ['Z'])) (Nat.div_mul_cancel (Nat.dvd_of_mod_eq_zero h3))
  · rw [List.cons_append, readFraction?_padded (by decide) (by omega) hr]
    exact congrArg (fun n => some (n, ['Z'])) (Nat.div_mul_cancel (Nat.dvd_of_mod_eq_zero h6))
  · rw [List.cons_append, readFraction?_padded (by decide) h hr, Nat.sub_self, pow_zero, mul_one]

theorem noDigit_fractionText (nanos : ℕ) : NoDigit (fractionText nanos ++ ['Z']) := by
  unfold fractionText
  split_ifs <;> exact noDigit_cons (by decide) _

end

/-! ## Timestamps -/

/-- The clock shows a valid instant with its day; a leap second is shown as the second 60. -/
theorem ofClock?_civil {i : Instant} (h : i.Valid) {second : ℕ}
    (hs : (second : ℤ) = i.seconds % 86400) :
    ofClock? (Date.civil (i.seconds / 86400)) (second / 3600) (second / 60 % 60)
      (second % 60 + i.nanos / 1000000000) (i.nanos % 1000000000) = some i := by
  obtain ⟨hnanos, hleap⟩ := h
  have hvalid := Date.valid_civil (i.seconds / 86400)
  unfold ofClock?
  rw [if_pos ⟨hvalid, by omega, by omega, by omega⟩, Date.number_civil]
  dsimp only
  split
  · next hsixty =>
    have hseconds : i.seconds / 86400 * 86400 + (second / 3600 : ℕ) * 3600 +
        (second / 60 % 60 : ℕ) * 60 + 59 = i.seconds := by omega
    rw [hseconds, show i.nanos % 1000000000 + 10 ^ 9 = i.nanos by omega]
  · next hsixty =>
    have hnanos : i.nanos < 1000000000 := by omega
    have hseconds : i.seconds / 86400 * 86400 + (second / 3600 : ℕ) * 3600 +
        (second / 60 % 60 : ℕ) * 60 + (second % 60 + i.nanos / 1000000000 : ℕ) = i.seconds := by
      omega
    rw [hseconds, Nat.mod_eq_of_lt hnanos]

/-- **An instant is read back from its timestamp.** -/
theorem ofRfc3339?_rfc3339 {i : Instant} (h : i.Valid) : ofRfc3339? i.rfc3339 = some i := by
  have hday : i.seconds.fdiv 86400 = i.seconds / 86400 := Int.fdiv_eq_ediv_of_nonneg _ (by decide)
  have hmod : i.seconds.fmod 86400 = i.seconds % 86400 := Int.fmod_eq_emod_of_nonneg _ (by decide)
  obtain ⟨second, hs⟩ : ∃ second : ℕ, (second : ℤ) = i.seconds % 86400 :=
    ⟨_, Int.toNat_of_nonneg (by omega)⟩
  have hclock := ofClock?_civil h hs
  obtain ⟨hnanos, -⟩ := h
  obtain ⟨⟨-, hmonth⟩, -, hdate⟩ := Date.valid_civil (i.seconds / 86400)
  have hlength := Date.monthLength_le (Date.civil (i.seconds / 86400)).year
    (Date.civil (i.seconds / 86400)).month
  unfold ofRfc3339? rfc3339
  simp only [hday, hmod, ← hs, Int.toNat_natCast, String.toList_ofList]
  generalize Date.civil (i.seconds / 86400) = date at hclock hmonth hdate hlength ⊢
  have hdash (s : List Char) : NoDigit ('-' :: s) := noDigit_cons rfl s
  have htime (s : List Char) : NoDigit ('T' :: s) := noDigit_cons rfl s
  have hcolon (s : List Char) : NoDigit (':' :: s) := noDigit_cons rfl s
  have hfraction : i.nanos % 1000000000 < 10 ^ 9 := Nat.mod_lt _ (by decide)
  have hm : date.month < 100 := by omega
  have hd : date.day < 100 := by omega
  have hh : second / 3600 < 100 := by omega
  have hmin : second / 60 % 60 < 100 := by omega
  have hsec : second % 60 + i.nanos / 1000000000 < 100 := by omega
  simp only [List.append_assoc, List.cons_append, Option.bind_eq_bind, Option.bind_some, if_true,
    readYear?_yearText, readField?_padded, readFraction?_fractionText, noDigit_fractionText, hdash,
    htime, hcolon, hfraction, hm, hd, hh, hmin, hsec]
  exact hclock

example : rfc3339 ⟨-62167219201, 1250000000⟩ = "-0001-12-31T23:59:60.250Z" := by decide +kernel

end DevServer.Instant
