import DevServer.Json.Basic
import DevServer.Text.Reader

/-!
# Reading JSON

`parse?` reads a whole text. The rules are strict: no comma before a closing bracket, no control
character inside a string, no lone surrogate, no number that overflows a double, and at most
`nesting` levels of arrays and objects. `readValue` recurses on the levels that are left; its loops go
on only while the text gets shorter.
-/

namespace DevServer.Json

open Text

/-- The blanks of JSON. -/
def isSpace (c : Char) : Bool := c == ' ' || c == '\n' || c == '\t' || c == '\r'

def skipSpace (s : List Char) : List Char := s.dropWhile isSpace

def isHighSurrogate (n : Nat) : Bool := 0xD800 ≤ n && n ≤ 0xDBFF

def isLowSurrogate (n : Nat) : Bool := 0xDC00 ≤ n && n ≤ 0xDFFF

/-- The character a letter stands for after a backslash. -/
def simpleEscape? : Char → Option Char
  | '"' => some '"'
  | '\\' => some '\\'
  | '/' => some '/'
  | 'b' => some '\x08'
  | 'f' => some '\x0c'
  | 'n' => some '\n'
  | 'r' => some '\r'
  | 't' => some '\t'
  | _ => none

/-- The character of an escape, for the text after its backslash. -/
def readEscape : Reader Char
  | 'u' :: a :: b :: c :: d :: rest => do
    let n ← hexValue? [a, b, c, d]
    if isLowSurrogate n then none
    else if isHighSurrogate n then
      match rest with
      | '\\' :: 'u' :: a' :: b' :: c' :: d' :: rest => do
        let m ← hexValue? [a', b', c', d']
        if isLowSurrogate m then
          some (Char.ofNat (0x10000 + (n - 0xD800) * 0x400 + (m - 0xDC00)), rest)
        else none
      | _ => none
    else some (Char.ofNat n, rest)
  | c :: rest => (simpleEscape? c).map (·, rest)
  | [] => none

theorem length_of_readEscape {s rest : List Char} {c : Char} (h : readEscape s = some (c, rest)) :
    rest.length < s.length := by
  unfold readEscape at h
  split at h
  · simp only [Option.bind_eq_bind, Option.bind_eq_some_iff] at h
    obtain ⟨n, _, h⟩ := h
    split at h
    · simp at h
    · split at h
      · split at h
        · simp only [Option.bind_eq_some_iff] at h
          obtain ⟨m, _, h⟩ := h
          split at h
          · simp at h; simp only [← h.2, List.length_cons]; omega
          · simp at h
        · simp at h
      · simp at h; simp only [← h.2, List.length_cons]; omega
  · obtain ⟨_, _, hr⟩ := Option.map_eq_some_iff.1 h
    simp at hr; simp [← hr.2]
  · simp at h

/-- The characters of a string, for the text after its opening quote. -/
def readStringBody (s : List Char) : Option (List Char × List Char) :=
  match s with
  | '"' :: rest => some ([], rest)
  | '\\' :: rest =>
    match _h : readEscape rest with
    | some (c, rest) => (readStringBody rest).map fun (cs, after) => (c :: cs, after)
    | none => none
  | c :: rest =>
    if c.toNat < 0x20 then none
    else (readStringBody rest).map fun (cs, after) => (c :: cs, after)
  | [] => none
termination_by s.length
decreasing_by
  · have := length_of_readEscape _h
    simp only [List.length_cons]
    omega
  · simp

def readString : Reader String
  | '"' :: rest => (readStringBody rest).map fun (cs, after) => (String.ofList cs, after)
  | _ => none

/-- At least one digit. -/
def readDigits : Reader (List Char) := fun s =>
  match s.takeWhile Char.isDigit with
  | [] => none
  | ds => some (ds, s.dropWhile Char.isDigit)

/-- The digits before the point: a zero stands alone. -/
def readWhole : Reader (List Char)
  | '0' :: rest => if rest.head?.any Char.isDigit then none else some (['0'], rest)
  | s => readDigits s

def readFraction : Reader (Option (List Char))
  | '.' :: rest => (readDigits rest).map fun (ds, rest) => (some ds, rest)
  | s => some (none, s)

def readExponent : Reader (Option (Bool × List Char))
  | c :: rest =>
    if c = 'e' ∨ c = 'E' then
      match rest with
      | '+' :: rest => (readDigits rest).map fun (ds, rest) => (some (false, ds), rest)
      | '-' :: rest => (readDigits rest).map fun (ds, rest) => (some (true, ds), rest)
      | rest => (readDigits rest).map fun (ds, rest) => (some (false, ds), rest)
    else some (none, c :: rest)
  | [] => some (none, [])

/-- A number that does not overflow. -/
def readNumber : Reader Number := fun s => do
  let (negative, s) := match s with
    | '-' :: rest => (true, rest)
    | s => (false, s)
  let (whole, s) ← readWhole s
  let (fraction, s) ← readFraction s
  let (exponent, s) ← readExponent s
  let n : Number := ⟨negative, whole, fraction, exponent⟩
  if n.overflows then none else return (n, s)

/-- Items with commas between them, the first of them due at once, up to `close`. -/
def readItems (item : Reader α) (close : Char) (s : List Char) : Option (List α × List Char) :=
  match item (skipSpace s) with
  | none => none
  | some (a, rest) =>
    match _h : skipSpace rest with
    | ',' :: rest' =>
      if _hlt : rest'.length < s.length then
        (readItems item close rest').map fun (as, after) => (a :: as, after)
      else none
    | c :: rest' => if c = close then some ([a], rest') else none
    | [] => none
termination_by s.length

/-- Items between brackets, for the text after the opening one. -/
def readBracketed (item : Reader α) (close : Char) : Reader (List α) := fun s =>
  match skipSpace s with
  | c :: rest => if c = close then some ([], rest) else readItems item close (c :: rest)
  | [] => none

/-- A name, a colon and a value. -/
def readField (value : Reader Json) : Reader (String × Json) := fun s => do
  let (name, s) ← readString s
  match skipSpace s with
  | ':' :: s =>
    let (v, s) ← value (skipSpace s)
    return ((name, v), s)
  | _ => none

/-- A value with at most `levels` levels of arrays and objects. -/
def readValue : (levels : Nat) → Reader Json
  | _, 'n' :: 'u' :: 'l' :: 'l' :: rest => some (.null, rest)
  | _, 't' :: 'r' :: 'u' :: 'e' :: rest => some (.bool true, rest)
  | _, 'f' :: 'a' :: 'l' :: 's' :: 'e' :: rest => some (.bool false, rest)
  | _, '"' :: rest => (readString ('"' :: rest)).map fun (s, rest) => (.string s, rest)
  | levels + 1, '[' :: rest =>
    (readBracketed (readValue levels) ']' rest).map fun (vs, rest) => (.array vs, rest)
  | levels + 1, '{' :: rest =>
    (readBracketed (readField (readValue levels)) '}' rest).map fun (fs, rest) => (.object fs, rest)
  | _, s => (readNumber s).map fun (n, rest) => (.number n, rest)

/-- How many levels of arrays and objects a document may have. -/
def nesting : Nat := 127

/-- The document that a text is, blanks around it apart. -/
def parse? (s : String) : Option Json :=
  match readValue nesting (skipSpace s.toList) with
  | some (v, rest) => if (skipSpace rest).isEmpty then some v else none
  | none => none

end DevServer.Json
