import DevServer.Shell.Expand

/-!
# Conditions

What `test` says of its arguments. Whether a word is an operator depends on what stands around it,
and few arguments are read by their number.
-/

namespace DevServer.Shell

open Process (Request)
open Text (Octets)

/-- What kind of operator a word is. -/
inductive TestOperator where
  | unary (name : String)
  | binary (name : String)
  | not
  | and
  | or
  | opening
  | closing
  deriving DecidableEq, Repr

def unaryOperators : List String := ["-r", "-w", "-x", "-e", "-f", "-d", "-c", "-b", "-p", "-u",
  "-g", "-k", "-s", "-t", "-z", "-n", "-h", "-O", "-G", "-L", "-S"]

def binaryOperators : List String :=
  ["=", "!=", "<", ">", "-eq", "-ne", "-ge", "-gt", "-le", "-lt", "-nt", "-ot", "-ef"]

def TestOperator.of? (word : Octets) : Option TestOperator :=
  let s := String.ofList word
  if unaryOperators.contains s then some (unary s)
  else if binaryOperators.contains s then some (binary s)
  else match s with
    | "!" => some not
    | "-a" => some and
    | "-o" => some or
    | "(" => some opening
    | ")" => some closing
    | _ => none

def TestOperator.isBinary : TestOperator → Bool
  | binary _ => true
  | _ => false

/-- Whether a word that could be an operator is an operand, by what follows it. -/
def isOperand (after : List Octets) : Bool :=
  match after with
  | [] => true
  | [_] => false
  | next :: _ => (TestOperator.of? next).any TestOperator.isBinary

/-- The operator in front of some arguments. -/
def operatorAt (args : List Octets) : Option TestOperator :=
  match args with
  | [] => none
  | word :: after =>
    match TestOperator.of? word with
    | some (.unary s) => if isOperand after then none else some (.unary s)
    | some .opening => if after.isEmpty then none else some .opening
    | found => found

def statusAt? (path : Octets) (through : Bool) : Sh (Option Process.Status) := do
  return (← Sh.ask (.status path through)).toOption

def testNumber (s : Octets) : Sh Int :=
  match signedNumber? s with
  | some n => return n
  | none => Sh.fail ("Illegal number: ".toList ++ s)

/-- Whether something is so of a word. -/
def unaryTest (op : String) (a : Octets) : Sh Bool := do
  match op with
  | "-n" => return !a.isEmpty
  | "-z" => return a.isEmpty
  | "-t" => do
    let _ ← testNumber a
    return false
  | "-h" | "-L" => return (← statusAt? a false).any (·.isLink)
  | _ =>
    match ← statusAt? a true with
    | none => return false
    | some s =>
      return match op with
        | "-f" => s.isRegular
        | "-d" => s.isDirectory
        | "-c" => !s.isRegular && !s.isDirectory
        | "-x" => s.isDirectory || (s.mode &&& 0o111) != 0
        | "-s" => 0 < s.size || s.isDirectory
        | "-u" => (s.mode &&& 0o4000) != 0
        | "-g" => (s.mode &&& 0o2000) != 0
        | "-k" => (s.mode &&& 0o1000) != 0
        | "-b" | "-p" | "-S" => false
        | _ => true

/-- Whether something is so of two words. -/
def binaryTest (op : String) (a b : Octets) : Sh Bool := do
  let compared (f : Int → Int → Bool) : Sh Bool := do return f (← testNumber a) (← testNumber b)
  match op with
  | "=" => return a == b
  | "!=" => return a != b
  | "<" => return byBytes a b && a != b
  | ">" => return byBytes b a && a != b
  | "-eq" => compared (· == ·)
  | "-ne" => compared (· != ·)
  | "-lt" => compared fun a b => decide (a < b)
  | "-le" => compared fun a b => decide (a ≤ b)
  | "-gt" => compared fun a b => decide (b < a)
  | "-ge" => compared fun a b => decide (b ≤ a)
  | _ =>
    match ← statusAt? a true, ← statusAt? b true with
    | some s, some t =>
      return match op with
        | "-nt" => decide (t.changed < s.changed)
        | "-ot" => decide (s.changed < t.changed)
        | _ => s.node == t.node
    | _, _ => return false

/-- Refuses arguments; `word` is where they go wrong. -/
def refuse {A : Type} (word : Octets) (text : String) : Sh A :=
  Sh.fail (if word.isEmpty then text.toList else word ++ ": ".toList ++ text.toList)

mutual

/-- Conditions joined by `-o`; the last argument that was read stays in front. -/
def testOr : Nat → List Octets → Sh (Bool × List Octets)
  | 0, args => return (false, args)
  | fuel + 1, args => do
    let (a, args) ← testAnd fuel args
    if operatorAt (args.drop 1) == some .or then
      let (b, args) ← testOr fuel (args.drop 2)
      return (a || b, args)
    else return (a, args)

def testAnd : Nat → List Octets → Sh (Bool × List Octets)
  | 0, args => return (false, args)
  | fuel + 1, args => do
    let (a, args) ← testNot fuel (operatorAt args) args
    if operatorAt (args.drop 1) == some .and then
      let (b, args) ← testAnd fuel (args.drop 2)
      return (a && b, args)
    else return (a, args)

def testNot : Nat → Option TestOperator → List Octets → Sh (Bool × List Octets)
  | 0, _, args => return (false, args)
  | fuel + 1, op, args => do
    if op == some .not then
      let rest := if args.length ≤ 1 then args else args.drop 1
      let op := if args.length ≤ 1 then none else operatorAt rest
      if args.length ≤ 1 then return (true, args)
      let (a, args) ← testNot fuel op rest
      return (!a, args)
    else testPrimary fuel op args

/-- A condition in brackets, about one word or about two. -/
def testPrimary : Nat → Option TestOperator → List Octets → Sh (Bool × List Octets)
  | 0, _, args => return (false, args)
  | fuel + 1, op, args => do
    match args with
    | [] => return (false, [])
    | word :: after =>
      match op with
      | some .opening =>
        if operatorAt after == some .closing then return (false, after)
        let (a, rest) ← testOr fuel after
        let rest := rest.drop 1
        if operatorAt rest != some .closing then refuse [] "closing paren expected"
        return (a, rest)
      | some (.unary name) =>
        match after with
        | [] => refuse word "argument expected"
        | a :: _ => return (← unaryTest name a, after)
      | _ =>
        match operatorAt after with
        | some (.binary name) =>
          match after with
          | _ :: b :: _ => return (← binaryTest name word b, after.drop 1)
          | _ => refuse name.toList "argument expected"
        | _ => return (!word.isEmpty, args)

end

/-- Whether arguments make a condition that holds. Three or four of them can be turned round or
stand in brackets as a whole. -/
def condition : Nat → List Octets → Sh Bool
  | 0, _ => return false
  | fuel + 1, args => do
    if args.isEmpty then return false
    let evaluated (op : Option TestOperator) (args : List Octets) : Sh Bool := do
      let size := 6 * args.length + 12
      let (first, rest) ← testNot size op args
      let (a, rest) ← goesOn size first rest
      match rest with
      | word :: _ :: _ => refuse word "unexpected operator"
      | _ => return a
    let middle := ((args[1]?).bind TestOperator.of?).any TestOperator.isBinary
    if args.length = 3 && middle then evaluated none args
    else if args.length = 3 || args.length = 4 then
      if args.head? == some ['('] && args.getLast? == some [')'] then
        let inner := (args.drop 1).dropLast
        evaluated (operatorAt inner) inner
      else if args.head? == some ['!'] then return !(← condition fuel (args.drop 1))
      else evaluated (operatorAt args) args
    else evaluated (operatorAt args) args
where
  /-- What is joined to a first condition. -/
  goesOn (size : Nat) (a : Bool) (args : List Octets) : Sh (Bool × List Octets) := do
    let (a, args) ←
      if operatorAt (args.drop 1) == some .and then do
        let (b, args) ← testAnd size (args.drop 2)
        pure (a && b, args)
      else pure (a, args)
    if operatorAt (args.drop 1) == some .or then
      let (b, args) ← testOr size (args.drop 2)
      return (a || b, args)
    else return (a, args)

/-- The status of a condition. -/
def conditionStatus (args : List Octets) : Sh Nat := do
  return if ← condition (args.length + 1) args then 0 else 1

end DevServer.Shell
