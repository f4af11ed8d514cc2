/-!
# TOML documents

Values keep what settings can ask of them: the value of an integer, whatever its size, and of a
float only whether it lies in the range of a double. Dates and times are kept as text.
-/

namespace DevServer

inductive Toml where
  | string (s : String)
  | integer (n : Int)
  | float (inRange : Bool)
  | boolean (b : Bool)
  | time (text : String)
  | array (items : List Toml)
  | table (fields : List (String × Toml))
  deriving Repr, Inhabited

namespace Toml

/-- The key that the text of a date or time has where a table is expected. -/
def timeKey : String := "$__toml_private_datetime"

/-- The fields of a table. A date or time can stand for a table with its text as the only field. -/
def fields? : Toml → Option (List (String × Toml))
  | table fields => some fields
  | time text => some [(timeKey, string text)]
  | string _ | integer _ | float _ | boolean _ | array _ => none

mutual

/-- Whether every number fits its widest type: 128 bits for integers, a double for floats. -/
def isInRange : Toml → Bool
  | .integer n => -Int.ofNat (Nat.pow 2 127) ≤ n && n < Int.ofNat (Nat.pow 2 128)
  | .float inRange => inRange
  | .array items => allInRange items
  | .table fields => fieldsInRange fields
  | .string _ | .boolean _ | .time _ => true

def allInRange : List Toml → Bool
  | [] => true
  | v :: vs => isInRange v && allInRange vs

def fieldsInRange : List (String × Toml) → Bool
  | [] => true
  | (_, v) :: fs => isInRange v && fieldsInRange fs

end

end Toml

end DevServer
