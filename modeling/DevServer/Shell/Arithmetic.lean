import DevServer.Shell.Syntax

/-!
# Shell arithmetic

Expressions over whole numbers of 64 bits, with the usual precedence. A name stands for its value,
and 0 if it has none; an assignment gives it a new one. Where only one of two sides counts, the
other one is read and not evaluated.
-/

namespace DevServer.Shell

open Text (Octets)

/-! ### Numbers in texts -/

def digitOf (c : Char) : Nat :=
  if c.isDigit then c.toNat - '0'.toNat
  else if 'a' ≤ c then c.toNat - 'a'.toNat + 10
  else c.toNat - 'A'.toNat + 10

def isHexDigit (c : Char) : Bool := c.isDigit || ('a' ≤ c && c ≤ 'f') || ('A' ≤ c && c ≤ 'F')

def isOctalDigit (c : Char) : Bool := '0' ≤ c && c ≤ '7'

def valueInBase (base : Nat) (ds : Octets) : Nat := ds.foldl (fun n c => n * base + digitOf c) 0

def isBlank (c : Char) : Bool := c == ' ' || ('\t' ≤ c && c ≤ '\r')

/-- The number in front of a text, hexadecimal behind `0x` and octal behind `0`, and what follows. -/
def unsignedAt (cs : Octets) : Option (Nat × Octets) :=
  match cs with
  | '0' :: x :: d :: rest =>
    if (x == 'x' || x == 'X') && isHexDigit d then
      some (valueInBase 16 ((d :: rest).takeWhile isHexDigit), (d :: rest).dropWhile isHexDigit)
    else
      some (valueInBase 8 (cs.takeWhile isOctalDigit), cs.dropWhile isOctalDigit)
  | '0' :: _ => some (valueInBase 8 (cs.takeWhile isOctalDigit), cs.dropWhile isOctalDigit)
  | c :: _ =>
    if c.isDigit then some (valueInBase 10 (cs.takeWhile Char.isDigit), cs.dropWhile Char.isDigit)
    else none
  | [] => none

/-- The largest number. -/
def mostNumber : Int := Int.ofNat (Nat.pow 2 63) - 1

def leastNumber : Int := -Int.ofNat (Nat.pow 2 63)

/-- The text without blanks in front and at the end. -/
def trimmed (cs : Octets) : Octets := ((cs.dropWhile isBlank).reverse.dropWhile isBlank).reverse

/-- A number with a sign and blanks around it, in decimals or in any base. -/
def numberIn? (anyBase : Bool) (cs : Octets) : Option Int := do
  let body := trimmed cs
  let (negative, body) := match body with
    | '-' :: ds => (true, ds)
    | '+' :: ds => (false, ds)
    | ds => (false, ds)
  let (n, rest) ←
    if anyBase then unsignedAt body
    else if body.head?.any Char.isDigit then
      some (valueInBase 10 (body.takeWhile Char.isDigit), body.dropWhile Char.isDigit)
    else none
  let value : Int := if negative then -(n : Int) else n
  if rest.isEmpty && leastNumber ≤ value && value ≤ mostNumber then some value else none

def signedNumber? (cs : Octets) : Option Int := numberIn? false cs

/-- Decimal digits, after a minus sign for a number below zero. -/
def numberText (n : Int) : Octets :=
  if n < 0 then '-' :: Nat.toDigits 10 n.natAbs else Nat.toDigits 10 n.natAbs

/-! ### Expressions -/

inductive Symbol where
  | number (n : Int)
  | name (text : Octets)
  | operator (text : String)
  deriving DecidableEq, Repr

/-- The operators with two sides, by rising precedence. -/
def arithmeticLevels : List (List String) := [
  ["|"], ["^"], ["&"], ["==", "!="], ["<=", ">=", "<", ">"], ["<<", ">>"], ["+", "-"],
  ["*", "/", "%"]]

/-- Operators that assign; what stands before the equals sign is applied first. -/
def assigningOperators : List String :=
  ["=", "+=", "-=", "*=", "/=", "%=", "<<=", ">>=", "&=", "^=", "|="]

/-- All operators, the longer ones first. -/
def arithmeticOperators : List String :=
  ["<<=", ">>=", "||", "&&", "==", "!=", "<=", ">=", "<<", ">>", "+=", "-=", "*=", "/=", "%=", "&=",
    "^=", "|=", "|", "^", "&", "<", ">", "+", "-", "*", "/", "%", "!", "~", "(", ")", "?", ":", "="]

/-- The symbols of an expression, up to a character that begins none. -/
def symbols : Nat → Octets → List Symbol × Bool
  | 0, _ => ([], false)
  | fuel + 1, cs =>
    match cs with
    | [] => ([], true)
    | c :: rest =>
      let more (s : Symbol) (rest : Octets) : List Symbol × Bool :=
        let (ss, good) := symbols fuel rest
        (s :: ss, good)
      if isBlank c then symbols fuel rest
      else match unsignedAt cs with
        | some (n, rest) => more (.number (min (Int.ofNat n) mostNumber)) rest
        | none =>
          if beginsName c then more (.name (cs.takeWhile isNameChar)) (cs.dropWhile isNameChar)
          else match arithmeticOperators.find? fun op => op.toList.isPrefixOf cs with
            | some op => more (.operator op) (cs.drop op.length)
            | none => ([], false)

/-- The number that 64 bits hold. -/
def wrapped (n : Int) : Int := Int.bmod n (Nat.pow 2 64)

/-- Applies an operation on bits. -/
def onBits (f : Nat → Nat → Nat) (a b : Int) : Int :=
  let bits (n : Int) : Nat := (n % Int.ofNat (Nat.pow 2 64)).toNat
  wrapped (Int.ofNat (f (bits a) (bits b)))

/-- The value of an operator with two sides. Nothing can be divided by zero. -/
def applyOperator (op : String) (a b : Int) : Except String Int :=
  let truth (p : Bool) : Except String Int := .ok (if p then 1 else 0)
  match op with
  | "==" => truth (a == b)
  | "!=" => truth (a != b)
  | "<=" => truth (a ≤ b)
  | ">=" => truth (b ≤ a)
  | "<" => truth (a < b)
  | ">" => truth (b < a)
  | "<<" => .ok (wrapped (a * Int.ofNat (Nat.pow 2 (b % 64).toNat)))
  | ">>" => .ok (Int.fdiv a (Int.ofNat (Nat.pow 2 (b % 64).toNat)))
  | "+" => .ok (wrapped (a + b))
  | "-" => .ok (wrapped (a - b))
  | "*" => .ok (wrapped (a * b))
  | "/" => if b = 0 then .error "division by zero" else .ok (wrapped (Int.tdiv a b))
  | "%" => if b = 0 then .error "division by zero" else .ok (Int.tmod a b)
  | "&" => .ok (onBits (· &&& ·) a b)
  | "|" => .ok (onBits (· ||| ·) a b)
  | _ => .ok (onBits (· ^^^ ·) a b)

/-- What is still to be read, and the assignments that were made, the last first. -/
structure Calculation where
  symbols : List Symbol
  assigned : List (Octets × Int)
  deriving DecidableEq, Repr

/-- Why an expression has no value. -/
inductive Miscalculation where
  | malformed (text : String)
  /-- A variable holds something that is no number. -/
  | notNumber (text : Octets)
  deriving DecidableEq, Repr

abbrev Calculate := StateT Calculation (Except Miscalculation)

namespace Calculate

def wrong {A : Type} (text : String) : Calculate A := throw (.malformed text)

def skip (n : Nat) : Calculate Unit := modify fun k => { k with symbols := k.symbols.drop n }

/-- The operator that comes next. -/
def operator? : Calculate (Option String) := do
  match (← get).symbols with
  | .operator op :: _ => return some op
  | _ => return none

/-- Goes on behind an operator. -/
def expect (op : String) : Calculate Unit := do
  if (← operator?) == some op then skip 1 else wrong s!"expecting '{op}'"

def apply (op : String) (a b : Int) : Calculate Int :=
  match applyOperator op a b with
  | .ok n => return n
  | .error text => wrong text

/-- The value of a name, whose text is otherwise given by `value`. -/
def valueOf (value : Octets → Octets) (name : Octets) : Calculate Int := do
  match (← get).assigned.lookup name with
  | some n => return n
  | none =>
    let text := value name
    if (trimmed text).isEmpty then return 0
    match numberIn? true text with
    | some n => return n
    | none => throw (.notNumber text)

end Calculate

open Calculate

variable (value : Octets → Octets)

mutual

/-- An assignment or a choice; where not `live`, nothing is evaluated. -/
def arithmeticWhole : Nat → Bool → Calculate Int
  | 0, _ => wrong "expecting primary"
  | fuel + 1, live => do
    match (← get).symbols with
    | .name name :: .operator op :: _ =>
      if assigningOperators.contains op then
        skip 2
        let b ← arithmeticWhole fuel live
        if !live then return b
        let n ← match op.toList.dropLast with
          | [] => pure b
          | before => do apply (String.ofList before) (← valueOf value name) b
        modify fun k => { k with assigned := (name, n) :: k.assigned }
        return n
      else arithmeticChoice fuel live
    | _ => arithmeticChoice fuel live

/-- A choice between two values. -/
def arithmeticChoice : Nat → Bool → Calculate Int
  | 0, _ => wrong "expecting primary"
  | fuel + 1, live => do
    let a ← arithmeticOr fuel live
    if (← operator?) == some "?" then
      skip 1
      let b ← arithmeticWhole fuel (live && a != 0)
      expect ":"
      let c ← arithmeticChoice fuel (live && a == 0)
      return if a != 0 then b else c
    else return a

def arithmeticOr : Nat → Bool → Calculate Int
  | 0, _ => wrong "expecting primary"
  | fuel + 1, live => do
    let a ← arithmeticAnd fuel live
    if (← operator?) == some "||" then
      skip 1
      let b ← arithmeticOr fuel (live && a == 0)
      return if a != 0 || b != 0 then 1 else 0
    else return a

def arithmeticAnd : Nat → Bool → Calculate Int
  | 0, _ => wrong "expecting primary"
  | fuel + 1, live => do
    let a ← arithmeticFrom fuel live arithmeticLevels
    if (← operator?) == some "&&" then
      skip 1
      let b ← arithmeticAnd fuel (live && a != 0)
      return if a != 0 && b != 0 then 1 else 0
    else return a

/-- The value of operators from a level on; the levels above bind more tightly. -/
def arithmeticFrom : Nat → Bool → List (List String) → Calculate Int
  | 0, _, _ => wrong "expecting primary"
  | fuel + 1, live, [] => arithmeticUnary fuel live
  | fuel + 1, live, level :: levels => do
    let a ← arithmeticFrom fuel live levels
    arithmeticRest fuel live level levels a

/-- The operators of one level, from left to right. -/
def arithmeticRest : Nat → Bool → List String → List (List String) → Int → Calculate Int
  | 0, _, _, _, _ => wrong "expecting primary"
  | fuel + 1, live, level, levels, a => do
    match ← operator? with
    | some op =>
      if level.contains op then
        skip 1
        let b ← arithmeticFrom fuel live levels
        let n ← if live then apply op a b else pure b
        arithmeticRest fuel live level levels n
      else return a
    | none => return a

/-- A number, a name, an operator with one side or an expression in brackets. -/
def arithmeticUnary : Nat → Bool → Calculate Int
  | 0, _ => wrong "expecting primary"
  | fuel + 1, live => do
    match (← get).symbols with
    | .number n :: _ =>
      skip 1
      return n
    | .name name :: _ =>
      skip 1
      if live then valueOf value name else return 0
    | .operator "-" :: _ =>
      skip 1
      return wrapped (-(← arithmeticUnary fuel live))
    | .operator "+" :: _ =>
      skip 1
      arithmeticUnary fuel live
    | .operator "~" :: _ =>
      skip 1
      return -(← arithmeticUnary fuel live) - 1
    | .operator "!" :: _ =>
      skip 1
      return if (← arithmeticUnary fuel live) = 0 then 1 else 0
    | .operator "(" :: _ =>
      skip 1
      let n ← arithmeticWhole fuel live
      expect ")"
      return n
    | _ => wrong "expecting primary"

end

/-- The value of an expression, and what it assigns, the last first; `value` gives the text of a
variable. -/
def arithmetic (expression : Octets) : Except Miscalculation (Int × List (Octets × Int)) := do
  let (ss, good) := symbols (expression.length + 1) expression
  let (n, k) ← (arithmeticWhole value (20 * ss.length + 20) true).run ⟨ss, []⟩
  if k.symbols.isEmpty && good then return (n, k.assigned)
  else throw (.malformed "expecting EOF")

end DevServer.Shell
