import DevServer.Failure.Cause
import DevServer.Shell.Arithmetic

/-!
# Formatted output

Backslash sequences and the directives of formats. What is wrong with an argument is said beside the
output.
-/

namespace DevServer.Shell

open Text (Octets)

def octalDigits (most : Nat) (cs : Octets) : Octets := (cs.take most).takeWhile isOctalDigit

/-- The character of a number, as far as one byte holds it. -/
def octet (n : Nat) : Char := Char.ofNat (n % 256)

/--
What a backslash in front of a text stands for, with what is left of the text; `none` in the first
part ends all output. Where `marked`, that can be asked for, and an octal number can have a 0 more in
front of its digits.
-/
def escapeAt (marked : Bool) (cs : Octets) : Option Octets × Octets :=
  match cs with
  | 'a' :: rest => (some ['\x07'], rest)
  | 'b' :: rest => (some ['\x08'], rest)
  | 'c' :: rest => if marked then (none, rest) else (some ['\\', 'c'], rest)
  | 'e' :: rest => (some ['\x1b'], rest)
  | 'f' :: rest => (some ['\x0c'], rest)
  | 'n' :: rest => (some ['\n'], rest)
  | 'r' :: rest => (some ['\r'], rest)
  | 't' :: rest => (some ['\t'], rest)
  | 'v' :: rest => (some ['\x0b'], rest)
  | '\\' :: rest => (some ['\\'], rest)
  | cs =>
    let most := if marked && cs.head? = some '0' then 4 else 3
    let ds := octalDigits most cs
    if ds.isEmpty then (some ['\\'], cs)
    else (some [octet (valueInBase 8 ds)], cs.drop ds.length)

/-- A text with its backslash sequences resolved, and whether one of them ends all output. -/
def escaped : Nat → Octets → Octets × Bool
  | 0, _ => ([], false)
  | _, [] => ([], false)
  | fuel + 1, '\\' :: cs =>
    match escapeAt true cs with
    | (none, _) => ([], true)
    | (some s, rest) =>
      let (more, ends) := escaped fuel rest
      (s ++ more, ends)
  | fuel + 1, c :: cs =>
    let (more, ends) := escaped fuel cs
    (c :: more, ends)

/-- What `echo` writes for its arguments. -/
def echoText (args : List Octets) : Octets :=
  let (feed, args) := match args with
    | ['-', 'n'] :: args => (false, args)
    | args => (true, args)
  let text := [' '].intercalate args
  match escaped (text.length + 1) text with
  | (s, true) => s
  | (s, false) => if feed then s ++ ['\n'] else s

/-- What the program `echo` writes: backslashes stand for themselves unless `-e` is given. -/
def plainEchoText (args : List Octets) : Octets :=
  let isOption (a : Octets) : Bool :=
    match a with
    | '-' :: c :: cs => (c :: cs).all fun c => c == 'n' || c == 'e' || c == 'E'
    | _ => false
  let options := (args.takeWhile isOption).flatten
  let text := [' '].intercalate (args.dropWhile isOption)
  let escapes := (options.filter fun c => c == 'e' || c == 'E').getLast? == some 'e'
  let (s, ends) := if escapes then escaped (text.length + 1) text else (text, false)
  if ends || options.contains 'n' then s else s ++ ['\n']

structure Directive where
  left : Bool
  zero : Bool
  plus : Bool
  space : Bool
  marked : Bool
  width : Nat
  precision : Option Nat
  conversion : Char
  deriving DecidableEq, Repr

namespace Directive

/-- Fills a text up to the width; zeros go behind what stands in front of the digits. -/
def fill (d : Directive) (zero : Bool) (front s : Octets) : Octets :=
  let missing := d.width - front.length - s.length
  if d.left then front ++ s ++ List.replicate missing ' '
  else if zero then front ++ List.replicate missing '0' ++ s
  else List.replicate missing ' ' ++ front ++ s

/-- The digits of a number with at least the precision's length. -/
def digits (d : Directive) (ds : Octets) : Octets :=
  let ds := if d.precision = some 0 && ds = ['0'] then [] else ds
  List.replicate (d.precision.getD 0 - ds.length) '0' ++ ds

/-- What stands in front of a number. -/
def sign (d : Directive) (negative : Bool) : Octets :=
  if negative then ['-'] else if d.plus then ['+'] else if d.space then [' '] else []

def signed (d : Directive) (n : Int) : Octets :=
  d.fill (d.zero && d.precision.isNone) (d.sign (decide (n < 0))) (d.digits (Nat.toDigits 10 n.natAbs))

def unsigned (d : Directive) (base : Nat) (upper : Bool) (n : Int) : Octets :=
  let n := (n % Int.ofNat (Nat.pow 2 64)).toNat
  let ds := d.digits (Nat.toDigits base n)
  let ds := if upper then ds.map Char.toUpper else ds
  let front : Octets :=
    if !d.marked || n = 0 then []
    else if base = 16 then ['0', if upper then 'X' else 'x']
    else if base = 8 && ds.head? != some '0' then ['0']
    else []
  d.fill (d.zero && d.precision.isNone) front ds

/-- A quotient, rounded to a whole number; a half goes to the even neighbour. -/
def roundedQuotient (a b : Nat) : Nat :=
  let q := a / b
  let twice := 2 * (a % b)
  if twice < b || (twice == b && q % 2 = 0) then q else q + 1

/-- The nearest fraction that has 53 binary digits, for digits with a power of ten. -/
def nearest (digits : Nat) (power : Int) : Nat × Nat :=
  let bits := (Float.ofScientific digits (decide (power < 0)) power.natAbs).toBits.toNat
  let exponent := bits / Nat.pow 2 52
  let rest := bits % Nat.pow 2 52
  let (m, q) := if exponent = 0 then (rest, 1) else (Nat.pow 2 52 + rest, exponent)
  if 1075 ≤ q then (m * Nat.pow 2 (q - 1075), 1) else (m, Nat.pow 2 (1075 - q))

/-- Digits with a point in front of so many of them; it can be left out where there are none. -/
def pointed (d : Directive) (ds : Octets) (places : Nat) : Octets :=
  let ds := List.replicate (places + 1 - ds.length) '0' ++ ds
  let whole := ds.take (ds.length - places)
  if places = 0 && !d.marked then whole else whole ++ '.' :: ds.drop (ds.length - places)

/-- Decimals of a fraction. -/
def fixed (d : Directive) (places a b : Nat) : Octets :=
  d.pointed (Nat.toDigits 10 (roundedQuotient (a * Nat.pow 10 places) b)) places

/-- The number of digits of a fraction in front of its point, less one; negative for zeros behind it. -/
def magnitude (a b : Nat) : Int :=
  if b ≤ a then Int.ofNat ((Nat.toDigits 10 (a / b)).length) - 1
  else
    let up := (Nat.toDigits 10 (b / max a 1)).length
    if b ≤ a * Nat.pow 10 (up - 1) then 1 - Int.ofNat up else - Int.ofNat up

/-- So many digits and one of a fraction, rounded, with the power of ten that the first one stands at. -/
def leading (places a b : Nat) : Nat × Int :=
  if a = 0 then (0, 0)
  else
    let power := magnitude a b
    let shift := Int.ofNat places - power
    let n := match shift with
      | .ofNat k => roundedQuotient (a * Nat.pow 10 k) b
      | .negSucc k => roundedQuotient a (b * Nat.pow 10 (k + 1))
    if n = Nat.pow 10 (places + 1) then (Nat.pow 10 places, power + 1) else (n, power)

/-- A fraction with a power of ten. -/
def scientific (d : Directive) (places a b : Nat) : Octets :=
  let (n, power) := leading places a b
  let ds := Nat.toDigits 10 power.natAbs
  d.pointed (Nat.toDigits 10 n) places ++
    'e' :: (if power < 0 then '-' else '+') :: List.replicate (2 - ds.length) '0' ++ ds

/-- A text without zeros at the end of its decimals. -/
def withoutZeros (s : Octets) : Octets :=
  let decimals := s.takeWhile (· != 'e')
  let kept := (decimals.reverse.dropWhile (· == '0')).reverse
  if decimals.contains '.' then
    (if kept.getLast? = some '.' then kept.dropLast else kept) ++ s.drop decimals.length
  else s

/-- A fraction in the shorter way of writing. -/
def general (d : Directive) (a b : Nat) : Octets :=
  let figures := max (d.precision.getD 6) 1
  let power := (leading (figures - 1) a b).2
  let text := if -4 ≤ power && power < figures then d.fixed (Int.ofNat figures - 1 - power).toNat a b
    else d.scientific (figures - 1) a b
  if d.marked then text else withoutZeros text

/-- A fraction as the conversion asks for. -/
def fraction (d : Directive) (negative : Bool) (a b : Nat) : Octets :=
  let places := d.precision.getD 6
  let text := match d.conversion.toLower with
    | 'e' => d.scientific places a b
    | 'g' => d.general a b
    | _ => d.fixed places a b
  d.fill d.zero (d.sign negative) (if d.conversion.isUpper then text.map Char.toUpper else text)

end Directive

/-- The number that an argument stands for, and what is wrong with it; a quote in front gives the
code of a character. -/
def argumentNumber (a : Octets) : Int × Option String :=
  match a with
  | '\'' :: rest | '"' :: rest => ((rest.head?.map Char.toNat).getD 0, none)
  | [] => (0, none)
  | _ =>
    let body := a.dropWhile isBlank
    let (negative, body) := match body with
      | '-' :: ds => (true, ds)
      | '+' :: ds => (false, ds)
      | ds => (false, ds)
    match unsignedAt body with
    | none => (0, some "expected numeric value")
    | some (n, rest) =>
      let exact : Int := if negative then -(n : Int) else n
      let n := max leastNumber (min exact mostNumber)
      (n, if !rest.isEmpty then some "not completely converted"
        else if n != exact then some (Failure.Cause.systemText 34)
        else none)

/-- The power of ten at the front of a text, if there is one, and the rest. -/
def exponentAt (s : Octets) : Int × Octets :=
  match s with
  | e :: rest =>
    let (negative, ds) := match rest with
      | '-' :: ds => (true, ds)
      | '+' :: ds => (false, ds)
      | ds => (false, ds)
    let digits := ds.takeWhile Char.isDigit
    if e.toLower != 'e' || digits.isEmpty then (0, s)
    else
      let n : Int := valueInBase 10 digits
      (if negative then -n else n, ds.drop digits.length)
  | [] => (0, [])

/-- The fraction that an argument stands for, as a decimal. -/
def argumentFraction (a : Octets) : Bool × Nat × Nat × Option String :=
  let body := a.dropWhile isBlank
  let (negative, body) := match body with
    | '-' :: ds => (true, ds)
    | '+' :: ds => (false, ds)
    | ds => (false, ds)
  let whole := body.takeWhile Char.isDigit
  let rest := body.drop whole.length
  let (part, rest) := match rest with
    | '.' :: ds => (ds.takeWhile Char.isDigit, ds.dropWhile Char.isDigit)
    | rest => ([], rest)
  let (power, rest) := exponentAt rest
  let value := Directive.nearest (valueInBase 10 (whole ++ part)) (power - part.length)
  if a.isEmpty then (false, 0, 1, none)
  else if (whole ++ part).isEmpty then (false, 0, 1, some "expected numeric value")
  else (negative, value.1, value.2, if rest.isEmpty then none else some "not completely converted")

/-- What a directive makes of an argument: the text, whether that ends all output, and what is wrong
with the argument. -/
def Directive.render (d : Directive) (a : Octets) : Option (Octets × Bool × Option String) :=
  let number (f : Int → Octets) : Option (Octets × Bool × Option String) :=
    let (n, wrong) := argumentNumber a
    some (f n, false, wrong)
  let cut (s : Octets) : Octets := match d.precision with
    | some n => s.take n
    | none => s
  match d.conversion with
  | 's' => some (d.fill false [] (cut a), false, none)
  | 'c' => some (d.fill false [] [a.headD '\x00'], false, none)
  | 'b' =>
    let (s, ends) := escaped (a.length + 1) a
    some (d.fill false [] (cut s), ends, none)
  | 'd' | 'i' => number d.signed
  | 'u' => number (d.unsigned 10 false)
  | 'o' => number (d.unsigned 8 false)
  | 'x' => number (d.unsigned 16 false)
  | 'X' => number (d.unsigned 16 true)
  | 'e' | 'E' | 'f' | 'F' | 'g' | 'G' =>
    let (negative, n, m, wrong) := argumentFraction a
    some (d.fraction negative n m, false, wrong)
  | _ => none

/-- Reads a directive behind its percent sign. A star stands for the next argument. -/
def directiveAt (cs : Octets) (args : List Octets) : Option (Directive × Octets × List Octets) :=
  let isFlag (c : Char) : Bool := "-0+ #".toList.contains c
  let flags := cs.takeWhile isFlag
  let size (cs : Octets) (args : List Octets) : Int × Octets × List Octets :=
    match cs with
    | '*' :: cs => ((argumentNumber (args.headD [])).1, cs, args.drop 1)
    | cs => (valueInBase 10 (cs.takeWhile Char.isDigit), cs.dropWhile Char.isDigit, args)
  let (width, cs, args) := size (cs.drop flags.length) args
  let (precision, cs, args) := match cs with
    | '.' :: cs =>
      let (n, cs, args) := size cs args
      (if n < 0 then none else some n.toNat, cs, args)
    | cs => (none, cs, args)
  match cs with
  | c :: cs =>
    some (⟨flags.contains '-' || decide (width < 0), flags.contains '0', flags.contains '+',
      flags.contains ' ', flags.contains '#', width.natAbs, precision, c⟩, cs, args)
  | [] => none

/-- What one use of a format has written. -/
structure Written where
  text : Octets
  /-- Whether all output ends. -/
  ends : Bool
  complaints : List Octets
  rest : List Octets
  /-- What is wrong with the format, if something is. -/
  refused : Option Octets

def Written.before (s : Octets) (complaints : List Octets) (w : Written) : Written :=
  { w with text := s ++ w.text, complaints := complaints ++ w.complaints }

/-- One use of a format, from left to right. -/
def formatOnce : Nat → Octets → List Octets → Written
  | 0, _, args => ⟨[], true, [], args, none⟩
  | fuel + 1, cs, args =>
    match cs with
    | [] => ⟨[], false, [], args, none⟩
    | '\\' :: cs =>
      match escapeAt false cs with
      | (none, _) => ⟨[], true, [], args, none⟩
      | (some s, rest) => (formatOnce fuel rest args).before s []
    | '%' :: '%' :: cs => (formatOnce fuel cs args).before ['%'] []
    | '%' :: cs =>
      match directiveAt cs args with
      | none => ⟨[], true, [], args, some "missing format character".toList⟩
      | some (d, rest, args) =>
        match d.render (args.headD []) with
        | none =>
          let directive := '%' :: cs.take (cs.length - rest.length)
          ⟨[], true, [], args, some (directive ++ ": invalid directive".toList)⟩
        | some (s, ends, wrong) =>
          let said := wrong.toList.map fun text => args.headD [] ++ ": ".toList ++ text.toList
          if ends then ⟨s, true, said, args.drop 1, none⟩
          else (formatOnce fuel rest (args.drop 1)).before s said
    | c :: cs => (formatOnce fuel cs args).before [c] []

/-- Uses a format as long as it takes arguments: what it writes, what is wrong with the arguments, and
what is wrong with the format. -/
def formatAll : Nat → Octets → List Octets → Octets × List Octets × Option Octets
  | 0, _, _ => ([], [], none)
  | fuel + 1, format, args =>
    let w := formatOnce (format.length + 1) format args
    if w.ends || w.rest.isEmpty || w.rest.length = args.length then (w.text, w.complaints, w.refused)
    else
      let (more, complaints, refused) := formatAll fuel format w.rest
      (w.text ++ more, w.complaints ++ complaints, refused)

/-- What `printf` writes, what is wrong with its arguments, and what is wrong with its format. -/
def formatted (format : Octets) (args : List Octets) : Octets × List Octets × Option Octets :=
  formatAll (args.length + 1) format args

end DevServer.Shell
