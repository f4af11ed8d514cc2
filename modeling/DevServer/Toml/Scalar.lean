import DevServer.Toml.Basic
import DevServer.Text.Reader

/-!
# Unquoted TOML values

Booleans, integers, floats, dates and times, each told by its spelling. Digits may be grouped by
single underscores between them, and a decimal number does not begin with a zero.
-/

namespace DevServer.Toml

open Text

/-- Digits of one class with single underscores between them; the digits alone. -/
def grouped? (isDigit : Char → Bool) : List Char → Option (List Char)
  | [] => none
  | c :: cs => if isDigit c then (go cs).map (c :: ·) else none
where
  go : List Char → Option (List Char)
    | [] => some []
    | '_' :: c :: cs => if isDigit c then (go cs).map (c :: ·) else none
    | c :: cs => if isDigit c then (go cs).map (c :: ·) else none

def isOctal (c : Char) : Bool := '0' ≤ c && c ≤ '7'

def isBinary (c : Char) : Bool := c == '0' || c == '1'

def isHex (c : Char) : Bool := (hexDigit? c).isSome

/-- The value of digits in a base. -/
def valueOf (base : Nat) (cs : List Char) : Nat :=
  cs.foldl (fun n c => n * base + (hexDigit? c).getD 0) 0

/-- The digits of a decimal number, which begin with a zero only if that is all. -/
def decimal? (s : List Char) : Option (List Char) :=
  match grouped? Char.isDigit s with
  | some ('0' :: _ :: _) => none
  | ds => ds

/-- The sign and what follows it. -/
def signed : List Char → Bool × List Char
  | '-' :: s => (true, s)
  | '+' :: s => (false, s)
  | s => (false, s)

def integer? (s : List Char) : Option Int :=
  match s with
  | '0' :: 'x' :: s => (grouped? isHex s).map fun ds => valueOf 16 ds
  | '0' :: 'o' :: s => (grouped? isOctal s).map fun ds => valueOf 8 ds
  | '0' :: 'b' :: s => (grouped? isBinary s).map fun ds => valueOf 2 ds
  | s =>
    let (negative, s) := signed s
    (decimal? s).map fun ds =>
      let n : Int := valueOf 10 ds
      if negative then -n else n

/-- The least number that a double cannot hold. -/
def doubleBound : Nat := Nat.pow 2 1024 - Nat.pow 2 970

/--
Whether `digits * 10 ^ exponent` rounds to a finite double. That bound has 309 digits, so only
numbers of that length are compared with it.
-/
def fitsDouble (digits : List Char) (exponent : Int) : Bool :=
  let ds := digits.dropWhile (· == '0')
  let size := ds.length + exponent
  if ds.isEmpty ∨ size ≤ 308 then true
  else if 309 < size then false
  else match exponent with
    | .ofNat e => valueOf 10 ds * Nat.pow 10 e < doubleBound
    | .negSucc e => valueOf 10 ds < doubleBound * Nat.pow 10 (e + 1)

/-- The exponent of a float, with its letter. -/
def exponent? : List Char → Option Int
  | [] => some 0
  | c :: s =>
    if c = 'e' ∨ c = 'E' then
      let (negative, s) := signed s
      (grouped? Char.isDigit s).map fun ds =>
        let n : Int := valueOf 10 ds
        if negative then -n else n
    else none

/-- A float, which has a point or an exponent; whether it lies in the range of a double. -/
def float? (s : List Char) : Option Bool :=
  let (_, s) := signed s
  if s = ['i', 'n', 'f'] ∨ s = ['n', 'a', 'n'] then some true
  else do
    let isPart (c : Char) : Bool := c.isDigit || c == '_'
    let whole ← decimal? (s.takeWhile isPart)
    match s.dropWhile isPart with
    | '.' :: s =>
      let fraction ← grouped? Char.isDigit (s.takeWhile isPart)
      let e ← exponent? (s.dropWhile isPart)
      return fitsDouble (whole ++ fraction) (e - fraction.length)
    | [] => none
    | s =>
      let e ← exponent? s
      return fitsDouble whole e

/-- Exactly `n` digits with a value in a range. -/
def number? (n low high : Nat) (s : List Char) : Option (Nat × List Char) :=
  let ds := s.take n
  let v := valueOf 10 ds
  if ds.length = n ∧ ds.all Char.isDigit ∧ low ≤ v ∧ v ≤ high then some (v, s.drop n) else none

/-- The number of days of a month. -/
def daysIn (year month : Nat) : Nat :=
  match month with
  | 2 => if year % 4 = 0 ∧ (year % 100 ≠ 0 ∨ year % 400 = 0) then 29 else 28
  | 4 | 6 | 9 | 11 => 30
  | _ => 31

def expect (c : Char) : List Char → Option (List Char)
  | d :: s => if d = c then some s else none
  | [] => none

/-- The date at the front of a text. -/
def readDate : Reader (List Char) := fun s => do
  let (year, r) ← number? 4 0 9999 s
  let (month, r) ← number? 2 1 12 (← expect '-' r)
  let (_, r) ← number? 2 1 (daysIn year month) (← expect '-' r)
  return (s.take 10, r)

/-- Parts of a second: at most nine digits count, and zeros at their end do not. -/
def fractionText (ds : List Char) : List Char :=
  match ((ds.take 9).reverse.dropWhile (· == '0')).reverse with
  | [] => []
  | kept => '.' :: kept

/-- The time of day at the front of a text, written in full. Seconds and parts of them may be
missing. -/
def readClock : Reader (List Char) := fun s => do
  let (_, r) ← number? 2 0 23 s
  let (_, r) ← number? 2 0 59 (← expect ':' r)
  let minutes := s.take 5
  match r with
  | ':' :: seconds =>
    let (_, r) ← number? 2 0 60 seconds
    let full := minutes ++ ':' :: seconds.take 2
    match r with
    | '.' :: r =>
      let ds := r.takeWhile Char.isDigit
      if ds.isEmpty then none else return (full ++ fractionText ds, r.dropWhile Char.isDigit)
    | r => return (full, r)
  | r => return (minutes ++ [':', '0', '0'], r)

/-- What may follow the time of day, written in full: nothing, or the distance from universal time. A
distance of nothing is not negative. -/
def offsetText? (s : List Char) : Option (List Char) :=
  match s with
  | [] => some []
  | ['Z'] | ['z'] => some ['Z']
  | sign :: distance =>
    if sign = '+' ∨ sign = '-' then do
      let (hours, r) ← number? 2 0 23 distance
      let (minutes, r) ← number? 2 0 59 (← expect ':' r)
      if !r.isEmpty then none
      else if hours = 0 ∧ minutes = 0 then some ('+' :: distance)
      else some (sign :: distance)
    else none

/-- The date, the time of day, or both, that a text is, written in full. -/
def time? (s : List Char) : Option (List Char) :=
  match readDate s with
  | some (date, []) => some date
  | some (date, c :: s) =>
    if c = 'T' ∨ c = 't' ∨ c = ' ' then do
      let (clock, s) ← readClock s
      let offset ← offsetText? s
      return date ++ 'T' :: (clock ++ offset)
    else none
  | none =>
    match readClock s with
    | some (clock, []) => some clock
    | _ => none

/-- The value that an unquoted spelling stands for. -/
def scalar? (s : List Char) : Option Toml :=
  match String.ofList s with
  | "true" => some (.boolean true)
  | "false" => some (.boolean false)
  | _ =>
    match integer? s with
    | some n => some (.integer n)
    | none =>
      match float? s with
      | some inRange => some (.float inRange)
      | none => (time? s).map fun text => .time (String.ofList text)

end DevServer.Toml
