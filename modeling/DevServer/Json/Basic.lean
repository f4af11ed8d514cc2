/-!
# JSON documents

A document keeps its numbers as they are written and the fields of its objects in order, repeated
names included. A number is read as a 64-bit significand and a decimal exponent; it is too large
when the product of the two, each rounded to 53 bits, exceeds the range of a double.
-/

namespace DevServer

namespace Json

/-- A number as it is written: digits, digits after the point, and a signed exponent. -/
structure Number where
  negative : Bool
  whole : List Char
  fraction : Option (List Char)
  /-- Whether the exponent is negative, and its digits. -/
  exponent : Option (Bool × List Char)
  deriving DecidableEq, Repr

end Json

inductive Json where
  | null
  | bool (b : Bool)
  | number (n : Json.Number)
  | string (s : String)
  | array (items : List Json)
  | object (fields : List (String × Json))
  deriving Repr, Inhabited

namespace Json

namespace Number

def ofNat (n : Nat) : Number := ⟨false, Nat.toDigits 10 n, none, none⟩

/-- The natural number below `2 ^ 64` that is written, if it is written as one. -/
def word? (n : Number) : Option Nat :=
  match n with
  | ⟨false, digits, none, none⟩ =>
    let v := Nat.ofDigitChars 10 digits 0
    if v < Nat.pow 2 64 then some v else none
  | _ => none

theorem word?_ofNat {n : Nat} (h : n < Nat.pow 2 64) : (ofNat n).word? = some n := by
  have read : Nat.ofDigitChars 10 (Nat.toDigits 10 n) 0 = n := by
    simp [Nat.ofDigitChars_toDigits]
  simp only [ofNat, word?, read]
  exact if_pos h

def maxWord : Nat := Nat.pow 2 64 - 1

def digitValue (c : Char) : Nat := c.toNat - '0'.toNat

/-- Takes digits into a 64-bit word until one does not fit; the second part is what is left. -/
def fill (significand : Nat) : List Char → Nat × List Char
  | [] => (significand, [])
  | c :: cs =>
    let next := significand * 10 + digitValue c
    if next ≤ maxWord then fill next cs else (significand, c :: cs)

/-- The 64-bit significand and the decimal exponent by which the number is read. -/
def scaled (n : Number) : Nat × Int :=
  let (high, dropped) := fill 0 n.whole
  let tail := n.fraction.getD []
  let (significand, unread) := fill high tail
  let taken := tail.length - unread.length
  let shift : Int :=
    match n.exponent with
    | none => 0
    | some (negative, digits) =>
      let e : Int := Nat.ofDigitChars 10 digits 0
      if negative then -e else e
  (significand, dropped.length - taken + shift)

/-- The nearest number with 53 significant bits; a tie goes to the even one. -/
def round53 (n : Nat) : Nat :=
  if n < Nat.pow 2 53 then n
  else
    let unit := Nat.pow 2 (n.log2 - 52)
    let low := n / unit * unit
    let rest := n % unit
    if unit < 2 * rest ∨ (unit = 2 * rest ∧ n / unit % 2 = 1) then low + unit else low

/-- The least number that rounds to infinity. -/
def infinityBound : Nat := Nat.pow 2 1024 - Nat.pow 2 970

/-- Whether reading the number as a double gives infinity. -/
def overflows (n : Number) : Bool :=
  match n.scaled with
  | (significand, .ofNat e) =>
    significand != 0 &&
      (308 < e || infinityBound ≤ round53 significand * round53 (Nat.pow 10 e))
  | (_, .negSucc _) => false

end Number

/-- The values of a name, in order. -/
def valuesOf (name : String) (fields : List (String × Json)) : List Json :=
  (fields.filter (·.1 == name)).map Prod.snd

end Json

end DevServer
