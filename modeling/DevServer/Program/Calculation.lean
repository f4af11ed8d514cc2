import DevServer.Program.Output
import DevServer.Program.Regex

/-!
# Expressions as arguments

Numbers and texts are joined by operators, each of which is an argument of its own. What is empty or
zero does not hold.
-/

namespace DevServer.Program

open Process (Routine)
open Text (Octets)

/-- Why an expression has no value. -/
inductive Unexpressed where
  | missing (after : Octets)
  | unexpected (word : Octets)
  | unclosed (after : Octets)
  | notNumber
  | zeroDivision
  | badPattern (text : String)

namespace Unexpressed

def message : Unexpressed → Octets
  | missing after => "syntax error: missing argument after ".toList ++ inQuotes after
  | unexpected word => "syntax error: unexpected argument ".toList ++ inQuotes word
  | unclosed after => "syntax error: expecting ')' after ".toList ++ inQuotes after
  | notNumber => "non-integer argument".toList
  | zeroDivision => "division by zero".toList
  | badPattern text => text.toList

end Unexpressed

/-- Arguments that are still to be read, and the last one that was read. -/
structure Arguments where
  rest : List Octets
  last : Octets

abbrev Express := StateT Arguments (Except Unexpressed)

namespace Express

def wholeNumber? (s : Octets) : Option Int :=
  match s with
  | '-' :: ds => if ds.isEmpty || !ds.all Char.isDigit then none
    else some (-(Shell.valueInBase 10 ds : Int))
  | ds => if ds.isEmpty || !ds.all Char.isDigit then none else some (Shell.valueInBase 10 ds : Int)

def number (s : Octets) : Express Int :=
  match wholeNumber? s with
  | some n => return n
  | none => throw .notNumber

/-- Whether a value neither is empty nor zero. -/
def isTrue (s : Octets) : Bool :=
  !s.isEmpty && !((match s with
    | '-' :: ds => ds
    | ds => ds).all (· == '0'))

def takes (words : List String) : Express (Option String) := do
  let s ← get
  match s.rest with
  | w :: rest =>
    if words.contains (String.ofList w) then
      set (⟨rest, w⟩ : Arguments)
      return some (String.ofList w)
    else return none
  | [] => return none

/-- What an expression matches at the beginning of a text: its first group, or else how much. -/
def matched (text pattern : Octets) : Express Octets :=
  match Regex.ofText ⟨false, false⟩ pattern with
  | .error why => throw (.badPattern why)
  | .ok r =>
    let hasGroup := r.hasGroup
    match r.matchAt text (Regex.placeAt text 0) with
    | some m =>
      return if hasGroup then
          match m.groups.lookup 1 with
          | some (start, length) => (text.drop start).take length
          | none => []
        else Nat.toDigits 10 m.length
    | none => return if hasGroup then [] else ['0']

mutual

def either : Nat → Express Octets
  | 0 => throw (.missing [])
  | fuel + 1 => do
    let a ← both fuel
    eitherRest fuel a

def eitherRest : Nat → Octets → Express Octets
  | 0, a => return a
  | fuel + 1, a => do
    match ← takes ["|"] with
    | none => return a
    | some _ =>
      let b ← both fuel
      eitherRest fuel (if isTrue a then a else if isTrue b then b else ['0'])

def both : Nat → Express Octets
  | 0 => throw (.missing [])
  | fuel + 1 => do
    let a ← comparison fuel
    bothRest fuel a

def bothRest : Nat → Octets → Express Octets
  | 0, a => return a
  | fuel + 1, a => do
    match ← takes ["&"] with
    | none => return a
    | some _ =>
      let b ← comparison fuel
      bothRest fuel (if isTrue a && isTrue b then a else ['0'])

def comparison : Nat → Express Octets
  | 0 => throw (.missing [])
  | fuel + 1 => do
    let a ← sum fuel
    comparisonRest fuel a

def comparisonRest : Nat → Octets → Express Octets
  | 0, a => return a
  | fuel + 1, a => do
    match ← takes ["<", "<=", "=", "==", "!=", ">=", ">"] with
    | none => return a
    | some op =>
      let b ← sum fuel
      let o := match wholeNumber? a, wholeNumber? b with
        | some m, some n => compare m n
        | _, _ => Path.compareBytes a.toBytes b.toBytes
      let holds : Bool := match op with
        | "<" => o == .lt
        | "<=" => o != .gt
        | "=" | "==" => o == .eq
        | "!=" => o != .eq
        | ">=" => o != .lt
        | _ => o == .gt
      comparisonRest fuel (if holds then ['1'] else ['0'])

def sum : Nat → Express Octets
  | 0 => throw (.missing [])
  | fuel + 1 => do
    let a ← product fuel
    sumRest fuel a

def sumRest : Nat → Octets → Express Octets
  | 0, a => return a
  | fuel + 1, a => do
    match ← takes ["+", "-"] with
    | none => return a
    | some op =>
      let b ← product fuel
      let m ← number a
      let n ← number b
      sumRest fuel (Shell.numberText (if op == "+" then m + n else m - n))

def product : Nat → Express Octets
  | 0 => throw (.missing [])
  | fuel + 1 => do
    let a ← matching fuel
    productRest fuel a

def productRest : Nat → Octets → Express Octets
  | 0, a => return a
  | fuel + 1, a => do
    match ← takes ["*", "/", "%"] with
    | none => return a
    | some op =>
      let b ← matching fuel
      let m ← number a
      let n ← number b
      if op != "*" && n = 0 then throw .zeroDivision
      productRest fuel (Shell.numberText
        (if op == "*" then m * n else if op == "/" then Int.tdiv m n else Int.tmod m n))

def matching : Nat → Express Octets
  | 0 => throw (.missing [])
  | fuel + 1 => do
    let a ← primary fuel
    matchingRest fuel a

def matchingRest : Nat → Octets → Express Octets
  | 0, a => return a
  | fuel + 1, a => do
    match ← takes [":"] with
    | none => return a
    | some _ =>
      let b ← primary fuel
      matchingRest fuel (← matched a b)

/-- One argument, a function of some, or an expression in brackets. -/
def primary : Nat → Express Octets
  | 0 => throw (.missing [])
  | fuel + 1 => do
    let s ← get
    match s.rest with
    | [] => throw (.missing s.last)
    | w :: rest =>
      set (⟨rest, w⟩ : Arguments)
      match String.ofList w with
      | "(" =>
        let a ← either fuel
        match ← takes [")"] with
        | some _ => return a
        | none =>
          match (← get).rest with
          | [] => throw (.unclosed (← get).last)
          | other :: _ => throw (.unexpected other)
      | ")" => throw (.unexpected w)
      | "+" =>
        match rest with
        | [] => throw (.missing w)
        | a :: rest =>
          set (⟨rest, a⟩ : Arguments)
          return a
      | "length" =>
        let a ← primary fuel
        return Nat.toDigits 10 a.length
      | "match" =>
        let a ← primary fuel
        let b ← primary fuel
        matched a b
      | "index" =>
        let a ← primary fuel
        let b ← primary fuel
        return Nat.toDigits 10 ((a.findIdx? b.contains).elim 0 (· + 1))
      | "substr" =>
        let a ← primary fuel
        let from_ ← primary fuel
        let size ← primary fuel
        match wholeNumber? from_, wholeNumber? size with
        | some m, some n => return if m < 1 || n < 1 then [] else (a.drop (m.toNat - 1)).take n.toNat
        | _, _ => return []
      | _ => return w

end

end Express

def expr (argv _ : List Octets) : Routine Nat := do
  let (name, args) := called argv
  let args := if args.head? = some ['-', '-'] then args.drop 1 else args
  if args.isEmpty then
    let _ ← missing name "missing operand"
    return 2
  match (Express.either (12 * args.length + 24)).run ⟨args, []⟩ with
  | .error why =>
    complain name why.message
    return 2
  | .ok (value, s) =>
    match s.rest with
    | word :: _ =>
      complain name (Unexpressed.unexpected word).message
      return 2
    | [] =>
      let status ← print name (line value)
      return if status != 0 then 3 else if Express.isTrue value then 0 else 1

end DevServer.Program
