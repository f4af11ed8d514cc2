import DevServer.Json.Basic

/-!
# Writing JSON

Documents are written without blanks. Strings keep every character but quotes, backslashes and
control characters.
-/

namespace DevServer.Json

/-- A hexadecimal digit, small letters. -/
def hexDigit (n : Nat) : Char := Nat.digitChar (n % 16)

/-- How a character is written inside a string. -/
def writeChar (c : Char) : List Char :=
  match c with
  | '"' => ['\\', '"']
  | '\\' => ['\\', '\\']
  | '\x08' => ['\\', 'b']
  | '\x0c' => ['\\', 'f']
  | '\n' => ['\\', 'n']
  | '\r' => ['\\', 'r']
  | '\t' => ['\\', 't']
  | c =>
    if c.toNat < 0x20 then ['\\', 'u', '0', '0', hexDigit (c.toNat / 16), hexDigit c.toNat]
    else [c]

def writeString (s : String) : List Char := '"' :: s.toList.flatMap writeChar ++ ['"']

def Number.write (n : Number) : List Char :=
  (if n.negative then ['-'] else []) ++ n.whole ++
    (match n.fraction with
      | some ds => '.' :: ds
      | none => []) ++
    match n.exponent with
    | some (negative, ds) => 'e' :: (if negative then '-' :: ds else ds)
    | none => []

mutual

/-- The characters of a document. -/
def write : Json → List Char
  | .null => ['n', 'u', 'l', 'l']
  | .bool true => ['t', 'r', 'u', 'e']
  | .bool false => ['f', 'a', 'l', 's', 'e']
  | .number n => n.write
  | .string s => writeString s
  | .array vs => '[' :: writeItems vs ++ [']']
  | .object fs => '{' :: writeFields fs ++ ['}']

def writeItems : List Json → List Char
  | [] => []
  | [v] => write v
  | v :: v' :: vs => write v ++ ',' :: writeItems (v' :: vs)

def writeFields : List (String × Json) → List Char
  | [] => []
  | [(k, v)] => writeString k ++ ':' :: write v
  | (k, v) :: f :: fs => writeString k ++ ':' :: write v ++ ',' :: writeFields (f :: fs)

end

/-- The text of a document. -/
def render (j : Json) : String := String.ofList j.write

end DevServer.Json
