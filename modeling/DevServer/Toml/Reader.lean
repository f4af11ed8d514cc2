import DevServer.Toml.Scalar

/-!
# Reading TOML values

Strings, keys and values of TOML 1.1. `readValue` recurses on the levels of arrays and inline tables
that are left; its loops go on only while the text gets shorter. Inside brackets, blanks, line breaks
and comments may stand between any two parts.
-/

namespace DevServer.Toml

open Text

/-- Blanks within a line. -/
def isSpace (c : Char) : Bool := c == ' ' || c == '\t'

def skipSpace (s : List Char) : List Char := s.dropWhile isSpace

/-- A character that may be written in a string or a comment: no control character but a tab. -/
def isWritable (c : Char) : Bool := c == '\t' || (0x20 ≤ c.toNat && c.toNat != 0x7F)

/-- What follows a line break. -/
def newline? : List Char → Option (List Char)
  | '\n' :: s | '\r' :: '\n' :: s => some s
  | _ => none

/-- The line break, or the end, after a comment's text. -/
def skipComment : List Char → Option (List Char)
  | [] => some []
  | '\n' :: s => some ('\n' :: s)
  | '\r' :: '\n' :: s => some ('\r' :: '\n' :: s)
  | c :: s => if isWritable c then skipComment s else none

theorem length_of_skipComment {s r : List Char} (h : skipComment s = some r) :
    r.length ≤ s.length := by
  fun_induction skipComment s with
  | case1 => simp at h; simp [h]
  | case2 s => simp at h; simp [← h]
  | case3 s => simp at h; simp [← h]
  | case4 c s _ _ _ ih => exact Nat.le_succ_of_le (ih h)
  | case5 => simp at h

/-- Skips blanks, line breaks and comments. -/
def skipFill (s : List Char) : Option (List Char) :=
  match s with
  | '\r' :: '\n' :: s => skipFill s
  | '#' :: s =>
    match _h : skipComment s with
    | some s => skipFill s
    | none => none
  | c :: s => if isSpace c || c == '\n' then skipFill s else some (c :: s)
  | [] => some []
termination_by s.length
decreasing_by
  · simp only [List.length_cons]; omega
  · have := length_of_skipComment _h
    simp only [List.length_cons]
    omega
  · simp

/-- The character of `n` hexadecimal digits, if they name one. -/
def readCode (n : Nat) : Reader Char := fun s => do
  let v ← hexValue? (s.take n)
  if (s.take n).length = n ∧ v.isValidChar then some (Char.ofNat v, s.drop n) else none

/-- The character of an escape, for the text after its backslash. -/
def readEscape : Reader Char
  | 'b' :: s => some ('\x08', s)
  | 't' :: s => some ('\t', s)
  | 'n' :: s => some ('\n', s)
  | 'f' :: s => some ('\x0c', s)
  | 'r' :: s => some ('\r', s)
  | 'e' :: s => some ('\x1b', s)
  | '"' :: s => some ('"', s)
  | '\\' :: s => some ('\\', s)
  | 'x' :: s => readCode 2 s
  | 'u' :: s => readCode 4 s
  | 'U' :: s => readCode 8 s
  | _ => none

theorem length_of_readCode {n : Nat} {s r : List Char} {c : Char}
    (h : readCode n s = some (c, r)) : r.length ≤ s.length := by
  simp only [readCode, Option.bind_eq_bind, Option.bind_eq_some_iff] at h
  obtain ⟨v, _, h⟩ := h
  split at h
  · simp at h; simp [← h.2]
  · simp at h

theorem length_of_readEscape {s r : List Char} {c : Char} (h : readEscape s = some (c, r)) :
    r.length < s.length := by
  unfold readEscape at h
  split at h
  all_goals first
    | exact Nat.lt_succ_of_le (length_of_readCode h)
    | simp at h; simp [← h.2]
    | simp at h

/-- The characters up to the quote that closes a basic string. -/
def readBasic (s : List Char) : Option (List Char × List Char) :=
  match s with
  | '"' :: s => some ([], s)
  | '\\' :: s =>
    match _h : readEscape s with
    | some (c, s) => (readBasic s).map fun (cs, s) => (c :: cs, s)
    | none => none
  | c :: s => if isWritable c then (readBasic s).map fun (cs, s) => (c :: cs, s) else none
  | [] => none
termination_by s.length
decreasing_by
  · have := length_of_readEscape _h
    simp only [List.length_cons]
    omega
  · simp

/-- The characters up to the quote that closes a literal string. -/
def readLiteral : List Char → Option (List Char × List Char)
  | '\'' :: s => some ([], s)
  | c :: s => if isWritable c then (readLiteral s).map fun (cs, s) => (c :: cs, s) else none
  | [] => none

/-- At most two quotes may stand right before the three that close a string of several lines. -/
def closingQuotes (quote : Char) (s : List Char) : List Char × List Char :=
  match s with
  | a :: b :: r => if a = quote ∧ b = quote then ([a, b], r) else
    if a = quote then ([a], b :: r) else ([], s)
  | [a] => if a = quote then ([a], []) else ([], s)
  | [] => ([], [])

/-- Skips blanks and line breaks. -/
def skipLines : List Char → List Char
  | '\r' :: '\n' :: s => skipLines s
  | c :: s => if isSpace c || c == '\n' then skipLines s else c :: s
  | [] => []

theorem length_skipLines_le (s : List Char) : (skipLines s).length ≤ s.length := by
  fun_induction skipLines s with
  | case1 s ih => simp only [List.length_cons]; omega
  | case2 c s _ _ ih => exact Nat.le_succ_of_le ih
  | case3 => simp
  | case4 => simp

/-- What follows a backslash that ends its line, and the blanks and line breaks after it. -/
def endOfLine? (s : List Char) : Option (List Char) := (newline? (skipSpace s)).map skipLines

theorem length_of_endOfLine? {s r : List Char} (h : endOfLine? s = some r) :
    r.length < s.length := by
  obtain ⟨t, ht, rfl⟩ := Option.map_eq_some_iff.1 h
  have h1 := length_skipLines_le t
  have h2 : (skipSpace s).length ≤ s.length := (List.dropWhile_sublist _).length_le
  unfold newline? at ht
  split at ht
  · next hs => rw [hs] at h2; simp at ht; subst ht; simp at h2; omega
  · next hs => rw [hs] at h2; simp at ht; subst ht; simp at h2; omega
  · simp at ht

/-- The characters up to the quotes that close a basic string of several lines. -/
def readBasicLines (s : List Char) : Option (List Char × List Char) :=
  match s with
  | '"' :: '"' :: '"' :: s => some (closingQuotes '"' s)
  | '\\' :: s =>
    match _h : readEscape s with
    | some (c, s) => (readBasicLines s).map fun (cs, s) => (c :: cs, s)
    | none =>
      match _h' : endOfLine? s with
      | some s => readBasicLines s
      | none => none
  | '\r' :: '\n' :: s => (readBasicLines s).map fun (cs, s) => ('\r' :: '\n' :: cs, s)
  | c :: s =>
    if isWritable c || c == '\n' then (readBasicLines s).map fun (cs, s) => (c :: cs, s) else none
  | [] => none
termination_by s.length
decreasing_by
  · have := length_of_readEscape _h
    simp only [List.length_cons]
    omega
  · have := length_of_endOfLine? _h'
    simp only [List.length_cons]
    omega
  · simp only [List.length_cons]; omega
  · simp

/-- The characters up to the quotes that close a literal string of several lines. -/
def readLiteralLines : List Char → Option (List Char × List Char)
  | '\'' :: '\'' :: '\'' :: s => some (closingQuotes '\'' s)
  | '\r' :: '\n' :: s => (readLiteralLines s).map fun (cs, s) => ('\r' :: '\n' :: cs, s)
  | c :: s =>
    if isWritable c || c == '\n' then (readLiteralLines s).map fun (cs, s) => (c :: cs, s) else none
  | [] => none

/-- A line break right after the opening quotes does not count. -/
def dropFirstBreak (s : List Char) : List Char := (newline? s).getD s

def readString : Reader String := fun s =>
  (match s with
    | '"' :: '"' :: '"' :: s => readBasicLines (dropFirstBreak s)
    | '"' :: s => readBasic s
    | '\'' :: '\'' :: '\'' :: s => readLiteralLines (dropFirstBreak s)
    | '\'' :: s => readLiteral s
    | _ => none).map fun (cs, s) => (String.ofList cs, s)

/-- A character of a key without quotes. -/
def isBare (c : Char) : Bool := c.isAlphanum || c == '_' || c == '-'

/-- One part of a key: bare, or a string of one line. -/
def readKeyPart : Reader String
  | '"' :: s => (readBasic s).map fun (cs, s) => (String.ofList cs, s)
  | '\'' :: s => (readLiteral s).map fun (cs, s) => (String.ofList cs, s)
  | s =>
    match s.takeWhile isBare with
    | [] => none
    | cs => some (String.ofList cs, s.dropWhile isBare)

/-- The parts of a key of any length, with points between them. -/
def readParts (s : List Char) : Option (List String × List Char) :=
  match readKeyPart s with
  | none => none
  | some (part, rest) =>
    match _h : skipSpace rest with
    | '.' :: rest' =>
      if _hlt : (skipSpace rest').length < s.length then
        (readParts (skipSpace rest')).map fun (parts, s) => (part :: parts, s)
      else none
    | _ => some ([part], rest)
termination_by s.length

/-- How many levels of arrays and inline tables a value may have, and how many parts a key. -/
def nesting : Nat := 80

/-- The parts of a key. -/
def readKey : Reader (List String) := fun s =>
  (readParts s).filter fun (parts, _) => parts.length ≤ nesting

/-- A character that ends an unquoted value. -/
def endsScalar (c : Char) : Bool :=
  c == ' ' || c == '\t' || c == '\n' || c == '\r' || c == ',' || c == ']' || c == '}' || c == '#' ||
    c == '=' || c == '[' || c == '{' || c == '"' || c == '\''

/-- An unquoted value; one blank may divide a date from a time of day. -/
def readScalar : Reader Toml := fun s =>
  let word := s.takeWhile (!endsScalar ·)
  let rest := s.dropWhile (!endsScalar ·)
  match readDate word, rest with
  | some (_, []), ' ' :: c :: rest =>
    if c.isDigit then
      let more := (c :: rest).takeWhile (!endsScalar ·)
      (scalar? (word ++ ' ' :: more)).map (·, (c :: rest).dropWhile (!endsScalar ·))
    else (scalar? word).map (·, ' ' :: c :: rest)
  | _, rest => (scalar? word).map (·, rest)

/-- A key, an equals sign and a value, with what `skip` passes over around the sign. -/
def readPair (skip : List Char → Option (List Char)) (value : Reader α) :
    Reader (List String × α) := fun s => do
  let (key, s) ← readKey s
  match ← skip s with
  | '=' :: s =>
    let (v, s) ← value (← skip s)
    return ((key, v), s)
  | _ => none

/-- Items with commas between them, and perhaps one after the last, up to `close`. -/
def readItems (item : Reader α) (close : Char) (s : List Char) : Option (List α × List Char) :=
  match skipFill s with
  | none | some [] => none
  | some (c :: s') =>
    if c = close then some ([], s')
    else match item (c :: s') with
      | none => none
      | some (a, rest) =>
        match skipFill rest with
        | some (',' :: rest') =>
          if _hlt : rest'.length < s.length then
            (readItems item close rest').map fun (as, s) => (a :: as, s)
          else none
        | some (d :: rest') => if d = close then some ([a], rest') else none
        | _ => none
termination_by s.length

end DevServer.Toml
