import DevServer.Program.Reading

/-!
# Dumps

`od` shows bytes as numbers or as characters, so many on a line behind the place of the first. Lines
that repeat the one before are left out.
-/

namespace DevServer.Program

open Process (Request Routine)
open Text (Octets)

/-- How bytes are shown. -/
inductive Shown where
  | character
  /-- By the names that control characters have. -/
  | named
  | number (signed : Bool) (base size : Nat)
  deriving DecidableEq, Repr

namespace Shown

def size : Shown → Nat
  | character | named => 1
  | number _ _ size => size

/-- The columns of one unit, without the blank in front. -/
def width : Shown → Nat
  | character | named => 3
  | number signed base size =>
    let digits := (Nat.toDigits base (Nat.pow 256 size - 1)).length
    if signed then (Nat.toDigits 10 (Nat.pow 256 size / 2)).length + 1 else digits

def controlNames : List String := ["nul", "soh", "stx", "etx", "eot", "enq", "ack", "bel", "bs", "ht",
  "nl", "vt", "ff", "cr", "so", "si", "dle", "dc1", "dc2", "dc3", "dc4", "nak", "syn", "etb", "can",
  "em", "sub", "esc", "fs", "gs", "rs", "us", "sp"]

def characterText (c : Char) : Octets :=
  match c with
  | '\x00' => ['\\', '0']
  | '\x07' => ['\\', 'a']
  | '\x08' => ['\\', 'b']
  | '\t' => ['\\', 't']
  | '\n' => ['\\', 'n']
  | '\x0b' => ['\\', 'v']
  | '\x0c' => ['\\', 'f']
  | '\r' => ['\\', 'r']
  | c =>
    if ' ' ≤ c && c ≤ '~' then [c]
    else
      let ds := Nat.toDigits 8 c.toNat
      List.replicate (3 - ds.length) '0' ++ ds

def nameText (c : Char) : Octets :=
  let n := c.toNat % 128
  if n = 127 then "del".toList
  else match controlNames[n]? with
    | some name => name.toList
    | none => [Char.ofNat n]

/-- One unit; the first byte is the lowest. -/
def unitText (s : Shown) (unit : Octets) : Octets :=
  match s with
  | character => characterText (unit.headD ' ')
  | named => nameText (unit.headD ' ')
  | number signed base size =>
    let n := unit.foldr (fun c n => n * 256 + c.toNat) 0
    if signed then
      let limit := Nat.pow 256 size
      if n < limit / 2 then Nat.toDigits 10 n else '-' :: Nat.toDigits 10 (limit - n)
    else
      let ds := Nat.toDigits base n
      if base = 10 then ds else List.replicate (s.width - ds.length) '0' ++ ds

/-- The columns of eight bytes. -/
def columns (s : Shown) : Nat := (s.width + 1) * 8 / s.size

/-- One line of bytes, where eight of them take so many columns. -/
def lineText (s : Shown) (columns : Nat) : Nat → Octets → Octets
  | 0, _ => []
  | _, [] => []
  | fuel + 1, bytes =>
    let text := s.unitText (bytes.take s.size)
    List.replicate (columns * s.size / 8 - text.length) ' ' ++ text ++
      lineText s columns fuel (bytes.drop s.size)

/-- What is shown, by the letters that ask for it. -/
def ofText : Nat → Octets → Option (List Shown)
  | 0, _ => none
  | _, [] => some []
  | fuel + 1, c :: rest =>
    let digits := rest.takeWhile Char.isDigit
    let (size, rest) := match rest.drop digits.length with
      | 'C' :: rest => (1, rest)
      | 'S' :: rest => (2, rest)
      | 'I' :: rest => (4, rest)
      | 'L' :: rest => (8, rest)
      | rest => (if digits.isEmpty then 4 else Shell.valueInBase 10 digits, rest)
    let plus (s : Shown) (rest : Octets) : Option (List Shown) := (ofText fuel rest).map (s :: ·)
    let numbers (signed : Bool) (base : Nat) : Option (List Shown) :=
      if [1, 2, 4, 8].contains size then plus (.number signed base size) rest else none
    match c with
    | 'c' => plus .character rest
    | 'a' => plus .named rest
    | 'd' => numbers true 10
    | 'u' => numbers false 10
    | 'o' => numbers false 8
    | 'x' => numbers false 16
    | 'z' => ofText fuel rest
    | _ => none

/-- What a letter of an option asks for. -/
def ofOption : Char × Octets → Option (List Shown)
  | ('t', text) => ofText (text.length + 1) text
  | ('c', _) => some [.character]
  | ('a', _) => some [.named]
  | ('b', _) => some [.number false 8 1]
  | ('d', _) => some [.number false 10 2]
  | ('o', _) => some [.number false 8 2]
  | ('x', _) => some [.number false 16 2]
  | ('s', _) => some [.number true 10 2]
  | ('i', _) => some [.number true 10 4]
  | ('l', _) => some [.number true 10 8]
  | _ => some []

end Shown

/-- A place in the input, in a base; without one it is not shown. -/
def placeText (base : Option Nat) (n : Nat) : Octets :=
  match base with
  | none => []
  | some base =>
    let ds := Nat.toDigits base n
    List.replicate ((if base = 16 then 6 else 7) - ds.length) '0' ++ ds

/-- The lines of a dump from a place on; `before` is the line before, and `starred` says whether it was
left out too. -/
def dumpLines (shown : List Shown) (base : Option Nat) (all : Bool) (width : Nat) :
    Nat → Nat → Option Octets → Bool → Octets → Octets
  | 0, _, _, _, _ => []
  | fuel + 1, place, before, starred, bytes =>
    if bytes.isEmpty then
      match base with
      | none => []
      | some _ => line (placeText base place)
    else
      let now := bytes.take width
      let more := dumpLines shown base all width fuel (place + now.length) (some now)
      if !all && before == some now then
        (if starred then [] else ['*', '\n']) ++ more true (bytes.drop width)
      else
        let units (n : Nat) : Octets :=
          now ++ List.replicate ((n - now.length % n) % n) '\x00'
        let columns := shown.foldl (fun n s => max n s.columns) 0
        let texts := shown.zipIdx.map fun (s, n) =>
          let front := if n = 0 then placeText base place else (placeText base place).map fun _ => ' '
          line (front ++ s.lineText columns (width + 1) (units s.size))
        texts.flatten ++ more false (bytes.drop width)

def od (argv _ : List Octets) : Routine Nat := do
  let (name, args) := called argv
  (known "abcdilosxv" "AtNjw" [("address-radix", 'A'), ("format", 't'), ("read-bytes", 'N'),
    ("skip-bytes", 'j'), ("output-duplicates", 'v'), ("width", 'w')]).parse 1 name args fun g => do
    match g.options.mapM Shown.ofOption with
    | none =>
      complain name ("invalid type string ".toList ++ inQuotes ((g.last? 't').getD []))
      return 1
    | some chosen =>
      let chosen := chosen.flatten
      let shown := if chosen.isEmpty then [.number false 8 2] else chosen
      let base := match g.last? 'A' with
        | some ['d'] => some 10
        | some ['x'] => some 16
        | some ['n'] => none
        | _ => some 8
      let size (c : Char) : Option Nat := (g.last? c).bind sized?
      let skipped := (size 'j').getD 0
      let (texts, status) ← readInputs name 1 (inputs g.operands)
      let bytes := (texts.flatMap (·.2)).drop skipped
      let bytes := match size 'N' with
        | some n => bytes.take n
        | none => bytes
      let width := max 1 ((size 'w').getD 16)
      let written ← print name
        (dumpLines shown base (g.has 'v') width (bytes.length + 2) skipped none false bytes)
      return max status written

end DevServer.Program
