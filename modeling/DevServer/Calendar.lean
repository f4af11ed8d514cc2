/-!
# Calendar time

An instant is a number of seconds since the start of 1970 with nanoseconds; nanoseconds of `10 ^ 9`
and more are a leap second. `civil` gives the date of a day in the proleptic Gregorian calendar:
years are counted from March, so that a leap day ends its year, and 400 years have `146097` days.
`rfc3339` writes an instant in universal time.
-/

namespace DevServer

/-- A date. -/
structure Date where
  year : Int
  month : Nat
  day : Nat
  deriving DecidableEq, Repr

/-- Seconds since 1970 began, and nanoseconds. -/
structure Instant where
  seconds : Int
  nanos : Nat
  deriving DecidableEq, Repr

namespace Date

/-- The day before 1 March of the year 0, counted from 1970. -/
def marchEpoch : Int := 719468

/-- Year of the era, counted from March, for a day of a 400-year era. -/
def yearOfEra (d : Nat) : Nat := (d - d / 1460 + d / 36524 - d / 146096) / 365

/-- The date of a day, counted from 1970. -/
def civil (day : Int) : Date :=
  let z := day + marchEpoch
  let era := z.fdiv 146097
  let d := (z - era * 146097).toNat
  let y := yearOfEra d
  let dayOfYear := d - (365 * y + y / 4 - y / 100)
  let m := (5 * dayOfYear + 2) / 153
  let month := if m < 10 then m + 3 else m - 9
  let year : Int := y + era * 400
  ⟨if month ≤ 2 then year + 1 else year, month, dayOfYear - (153 * m + 2) / 5 + 1⟩

end Date

namespace Instant

/-- At least `width` digits, with zeros in front. -/
def padded (width n : Nat) : List Char :=
  let ds := Nat.toDigits 10 n
  List.replicate (width - ds.length) '0' ++ ds

/-- Four digits for the years 0 to 9999, otherwise a sign and at least four digits. -/
def yearText (y : Int) : List Char :=
  if 0 ≤ y ∧ y ≤ 9999 then padded 4 y.toNat
  else (if y < 0 then '-' else '+') :: padded 4 y.natAbs

/-- The digits after the second, as many groups of three as the value needs. -/
def fractionText (nanos : Nat) : List Char :=
  if nanos = 0 then []
  else if nanos % 1000000 = 0 then '.' :: padded 3 (nanos / 1000000)
  else if nanos % 1000 = 0 then '.' :: padded 6 (nanos / 1000)
  else '.' :: padded 9 nanos

/-- The text of an instant, with `Z` for universal time. -/
def rfc3339 (i : Instant) : String :=
  let date := Date.civil (i.seconds.fdiv 86400)
  let second := (i.seconds.fmod 86400).toNat
  let leap := i.nanos / 1000000000
  String.ofList <|
    yearText date.year ++ '-' :: padded 2 date.month ++ '-' :: padded 2 date.day ++
    'T' :: padded 2 (second / 3600) ++ ':' :: padded 2 (second / 60 % 60) ++
    ':' :: padded 2 (second % 60 + leap) ++ fractionText (i.nanos % 1000000000) ++ ['Z']

end Instant

end DevServer
