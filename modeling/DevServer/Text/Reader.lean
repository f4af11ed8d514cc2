/-!
# Readers

A reader takes a value off the front of a text, or fails.
-/

namespace DevServer.Text

/-- The value read and what is left of the text. -/
abbrev Reader (α : Type) := List Char → Option (α × List Char)

/-- The value of a hexadecimal digit. -/
def hexDigit? (c : Char) : Option Nat :=
  if c.isDigit then some (c.toNat - '0'.toNat)
  else if 'a' ≤ c ∧ c ≤ 'f' then some (c.toNat - 'a'.toNat + 10)
  else if 'A' ≤ c ∧ c ≤ 'F' then some (c.toNat - 'A'.toNat + 10)
  else none

/-- The value of hexadecimal digits, the most significant first. -/
def hexValue? (cs : List Char) : Option Nat :=
  cs.foldlM (fun n c => (hexDigit? c).map (n * 16 + ·)) 0

/-- The text without a byte-order mark in front. -/
def dropMark : List Char → List Char
  | '\uFEFF' :: s => s
  | s => s

end DevServer.Text
