import DevServer.Program.Reading
import DevServer.Shell.Pattern

/-!
# Programs on lines and characters

Sorting lines, dropping repeated ones, cutting fields out of them, and replacing characters.
-/

namespace DevServer.Program

open Failure (Cause)
open Process (Request Routine)
open Text (Octets)

/-! ### Sorting -/

/-- How parts of lines are compared. -/
structure Manner where
  numeric : Bool
  reverse : Bool
  /-- Whether lower case counts as upper case. -/
  folds : Bool
  /-- Whether blanks in front are passed over. -/
  skipsBlanks : Bool
  deriving DecidableEq, Repr

/-- A part of lines by which they are sorted: from a field and a character on, up to others. -/
structure SortKey where
  field : Nat
  char : Nat
  lastField : Option Nat
  /-- 0 for the whole of the last field. -/
  lastChar : Nat
  manner : Option Manner
  deriving DecidableEq, Repr

def Manner.usual : Manner := ⟨false, false, false, false⟩

def Manner.add (m : Manner) (c : Char) : Manner :=
  match c with
  | 'n' | 'g' | 'h' => { m with numeric := true }
  | 'r' => { m with reverse := true }
  | 'f' => { m with folds := true }
  | 'b' => { m with skipsBlanks := true }
  | _ => m

namespace SortKey

/-- Reads a field, a character in it and letters, and gives the rest. -/
def position (usual : Nat) (s : Octets) : Nat × Nat × Octets × Octets :=
  let field := s.takeWhile Char.isDigit
  let rest := s.drop field.length
  let (char, rest) := match rest with
    | '.' :: cs => (cs.takeWhile Char.isDigit, cs.dropWhile Char.isDigit)
    | rest => ([], rest)
  let letters := rest.takeWhile Char.isAlpha
  (Shell.valueInBase 10 field, if char.isEmpty then usual else Shell.valueInBase 10 char, letters,
    rest.drop letters.length)

def of? (s : Octets) : Option SortKey :=
  let (field, char, letters, rest) := position 1 s
  let manner (letters : Octets) : Option Manner :=
    if letters.isEmpty then none else some (letters.foldl Manner.add .usual)
  if field = 0 then none
  else match rest with
    | [] => some ⟨field, char, none, 0, manner letters⟩
    | ',' :: rest =>
      let (lastField, lastChar, more, rest) := position 0 rest
      if lastField = 0 || !rest.isEmpty then none
      else some ⟨field, char, some lastField, lastChar, manner (letters ++ more)⟩
    | _ => none

end SortKey

/-- The fields of a line; without a separator each field has the blanks in front of it. -/
def fieldsOf (separator : Option Char) (l : Octets) : List Octets :=
  match separator with
  | some c =>
    l.foldr (fun d parts =>
      if d = c then [] :: parts
      else match parts with
        | first :: rest => (d :: first) :: rest
        | [] => [[d]]) [[]]
  | none => l.splitBy fun a b => Shell.isBlank a || !Shell.isBlank b

/-- Where a field begins in its line. -/
def fieldStart (separator : Option Char) (fields : List Octets) (n : Nat) : Nat :=
  (fields.take n).foldl (fun k f => k + f.length + (if separator.isSome then 1 else 0)) 0

/-- The part of a line that a key names. -/
def SortKey.part (k : SortKey) (separator : Option Char) (skipsBlanks : Bool) (l : Octets) : Octets :=
  let fields := fieldsOf separator l
  let blanks (at_ : Nat) : Nat :=
    if skipsBlanks then at_ + ((l.drop at_).takeWhile Shell.isBlank).length else at_
  let start := blanks (fieldStart separator fields (k.field - 1)) + (k.char - 1)
  let finish := match k.lastField with
    | none => l.length
    | some n =>
      if k.lastChar = 0 then
        fieldStart separator fields (n - 1) + (fields[n - 1]?.getD []).length
      else blanks (fieldStart separator fields (n - 1)) + k.lastChar
  (l.take finish).drop start

/-- The number in front of a text, in millionths. -/
def leadingNumber (s : Octets) : Int :=
  let body := s.dropWhile Shell.isBlank
  let (negative, body) := match body with
    | '-' :: ds => (true, ds)
    | ds => (false, ds)
  let whole := body.takeWhile Char.isDigit
  let part := match body.drop whole.length with
    | '.' :: ds => (ds.takeWhile Char.isDigit).take 6
    | _ => []
  let n : Int := Shell.valueInBase 10 (whole ++ part ++ List.replicate (6 - part.length) '0')
  if negative then -n else n

def compareTexts (a b : Octets) : Ordering := Path.compareBytes a.toBytes b.toBytes

def Manner.compare (m : Manner) (a b : Octets) : Ordering :=
  let o := if m.numeric then Ord.compare (leadingNumber a) (leadingNumber b)
    else if m.folds then compareTexts (a.map Char.toUpper) (b.map Char.toUpper)
    else compareTexts a b
  if m.reverse then o.swap else o

/-- How a run of `sort` compares lines. -/
structure Sorting where
  manner : Manner
  keys : List SortKey
  separator : Option Char
  /-- Whether lines that compare as equal keep their order, or are one. -/
  stable : Bool
  deriving Repr

namespace Sorting

def compareKeys (s : Sorting) (a b : Octets) : Ordering :=
  if s.keys.isEmpty then
    let cut (l : Octets) : Octets := if s.manner.skipsBlanks then l.dropWhile Shell.isBlank else l
    s.manner.compare (cut a) (cut b)
  else s.keys.foldl (fun o k =>
    let m := k.manner.getD s.manner
    o.then (m.compare (k.part s.separator m.skipsBlanks a) (k.part s.separator m.skipsBlanks b))) .eq

def compare (s : Sorting) (a b : Octets) : Ordering :=
  let last := compareTexts a b
  (s.compareKeys a b).then
    (if s.stable then .eq else if s.manner.reverse then last.swap else last)

end Sorting

def sortKnown : Known := known "nrufbdighsczmMVC" "kto" [("numeric-sort", 'n'), ("reverse", 'r'),
  ("unique", 'u'), ("ignore-case", 'f'), ("ignore-leading-blanks", 'b'), ("key", 'k'),
  ("field-separator", 't'), ("output", 'o'), ("stable", 's'), ("check", 'c')]

/-- One line of those that follow each other and are alike. -/
def firstOfEach {A : Type} (alike : A → A → Bool) : List A → List A
  | [] => []
  | [a] => [a]
  | a :: b :: rest =>
    if alike a b then firstOfEach alike (a :: rest) else a :: firstOfEach alike (b :: rest)
  termination_by xs => xs.length

def sort (argv _ : List Octets) : Routine Nat := do
  let (name, args) := called argv
  sortKnown.parse 2 name args fun g => do
    let keys := (g.all 'k').map SortKey.of?
    if keys.any (·.isNone) then
      complain name "invalid field specification".toList
      return 2
    let manner := (g.options.map (·.1)).foldl Manner.add .usual
    let sorting : Sorting :=
      ⟨manner, keys.filterMap id, (g.last? 't').bind (·.head?), g.has 's' || g.has 'u'⟩
    let mut lines : List Octets := []
    for path in inputs g.operands do
      match (← withInput path fun d => Routine.readAll d).bind id with
      | .ok text => lines := lines ++ bareLines text
      | .error cause =>
        complainOf name ("cannot read: ".toList ++ path) cause
        return 2
    if g.has 'c' || g.has 'C' then
      let pairs := lines.zip (lines.drop 1)
      match pairs.find? fun (a, b) => sorting.compare a b == .gt ||
          (g.has 'u' && sorting.compare a b == .eq) with
      | some (_, b) =>
        if g.has 'c' then complain name ((inputs g.operands).headD [] ++ ": disorder: ".toList ++ b)
        return 1
      | none => return 0
    let sorted := lines.mergeSort fun a b => sorting.compare a b != .gt
    let sorted := if g.has 'u' then firstOfEach (fun a b => sorting.compare a b == .eq) sorted else sorted
    let text := sorted.flatMap line
    match g.last? 'o' with
    | none => print name text
    | some path =>
      match ← Routine.ask (.open path (.writing 0o666)) with
      | .error cause =>
        complainOf name ("open failed: ".toList ++ path) cause
        return 2
      | .ok d =>
        let _ ← Routine.writeAll d text
        let _ ← Routine.ask (.close d)
        return 0

/-- Lines that follow each other and are alike, together. -/
def groups (alike : Octets → Octets → Bool) (lines : List Octets) : List (List Octets) :=
  lines.splitBy alike

def uniq (argv _ : List Octets) : Routine Nat := do
  let (name, args) := called argv
  (known "cduizD" "fsw" [("count", 'c'), ("repeated", 'd'), ("unique", 'u'),
    ("ignore-case", 'i')]).parse 1 name args fun g => do
    let (texts, status) ← readInputs name 1 (inputs (g.operands.take 1))
    if status != 0 then return status
    let number (c : Char) : Nat := ((g.last? c).map (Shell.valueInBase 10)).getD 0
    let skipField (l : Octets) : Octets :=
      (l.dropWhile Shell.isBlank).dropWhile fun c => !Shell.isBlank c
    let key (l : Octets) : Octets :=
      let l := ((List.range (number 'f')).foldl (fun l _ => skipField l) l).drop (number 's')
      let l := if g.has 'w' then l.take (number 'w') else l
      if g.has 'i' then l.map Char.toUpper else l
    let lines := texts.flatMap fun (_, s) => bareLines s
    let shown := (groups (fun a b => key a == key b) lines).filter fun ls =>
      (!g.has 'd' || 1 < ls.length) && (!g.has 'u' || ls.length = 1)
    let text := shown.flatMap fun ls =>
      let ds := Nat.toDigits 10 ls.length
      let front : Octets := if g.has 'c' then List.replicate (7 - ds.length) ' ' ++ ds ++ [' '] else []
      line (front ++ ls.headD [])
    match g.operands[1]? with
    | none => print name text
    | some path =>
      match ← Routine.ask (.open path (.writing 0o666)) with
      | .error cause =>
        complainOf name path cause
        return 1
      | .ok d =>
        let _ ← Routine.writeAll d text
        let _ ← Routine.ask (.close d)
        return 0

/-! ### Cutting -/

/-- Ranges of numbers from 1 on; an open end is `none`. -/
def ranges? (s : Octets) : Option (List (Nat × Option Nat)) :=
  let parts := (fieldsOf (some ',') s)
  parts.mapM fun p =>
    let a := p.takeWhile Char.isDigit
    match p.drop a.length with
    | [] => if a.isEmpty then none else some (Shell.valueInBase 10 a, some (Shell.valueInBase 10 a))
    | '-' :: b =>
      if !b.all Char.isDigit || (a.isEmpty && b.isEmpty) then none
      else
        some (if a.isEmpty then 1 else Shell.valueInBase 10 a,
          if b.isEmpty then none else some (Shell.valueInBase 10 b))
    | _ => none

def inRanges (rs : List (Nat × Option Nat)) (n : Nat) : Bool :=
  rs.any fun (a, b) => a ≤ n && b.all (n ≤ ·)

/-- The members of a list at chosen numbers, which count from 1. -/
def pick {A : Type} (chosen : Nat → Bool) (xs : List A) : List A :=
  ((xs.zipIdx 1).filter fun p => chosen p.2).map (·.1)

def cutKnown : Known := known "snzC" "fdcbO" [("fields", 'f'), ("delimiter", 'd'), ("characters", 'c'),
  ("bytes", 'b'), ("only-delimited", 's'), ("complement", 'C'), ("output-delimiter", 'O')]

def cut (argv _ : List Octets) : Routine Nat := do
  let (name, args) := called argv
  cutKnown.parse 1 name args fun g => do
    match g.lastOf ['f', 'c', 'b'] with
    | none => missing name "you must specify a list of bytes, characters, or fields"
    | some kind =>
      match ranges? ((g.last? kind).getD []) with
      | none => missing name (if kind == 'f' then "invalid field range" else "invalid byte or character range")
      | some rs =>
        let chosen (n : Nat) : Bool := inRanges rs n != g.has 'C'
        let delimiter := ((g.last? 'd').bind (·.head?)).getD '\t'
        let joint := (g.last? 'O').getD (if kind == 'f' then [delimiter] else [])
        let cutLine (l : Octets) : Octets :=
          if kind == 'f' then
            if !l.contains delimiter then (if g.has 's' then [] else line l)
            else line (joint.intercalate (pick chosen (fieldsOf (some delimiter) l)))
          else line (joint.intercalate ((pick chosen l).map fun c => [c]))
        let (status, _) ← eachInput name id (fun _ d _ =>
          passingLines d (fun _ l => (cutLine (bare l), (), true)) ()) 0 () (inputs g.operands)
        return status

/-! ### Replacing characters -/

/-- A set of characters in order, as it is written. -/
def charSet : Nat → Octets → List Char
  | 0, _ => []
  | _, [] => []
  | fuel + 1, cs =>
    let single (cs : Octets) : Option (Char × Octets) :=
      match cs with
      | '\\' :: rest =>
        match Shell.escapeAt false rest with
        | (some [c], rest') =>
          if rest'.length = rest.length then
            match rest with
            | d :: rest => some (d, rest)
            | [] => some (c, [])
          else some (c, rest')
        | _ => rest.head?.map fun d => (d, rest.drop 1)
      | c :: rest => some (c, rest)
      | [] => none
    match cs with
    | '[' :: ':' :: rest =>
      let name := rest.takeWhile (· != ':')
      let all := (List.range 256).map Char.ofNat
      all.filter (Shell.classHolds (String.ofList name)) ++ charSet fuel (rest.drop (name.length + 2))
    | '[' :: c :: '*' :: rest =>
      let ds := rest.takeWhile (· != ']')
      List.replicate (if ds.isEmpty then 256 else Shell.valueInBase (if ds.head? = some '0' then 8 else 10) ds) c ++
        charSet fuel (rest.drop (ds.length + 1))
    | cs =>
      match single cs with
      | none => []
      | some (a, '-' :: rest) =>
        match single rest with
        | none => [a, '-']
        | some (b, rest) =>
          (List.range (b.toNat + 1 - a.toNat)).map (fun k => Char.ofNat (a.toNat + k)) ++
            charSet fuel rest
      | some (a, rest) => a :: charSet fuel rest

/-- What characters are replaced by; the last one stands for those that are missing. -/
def replacement (first second : List Char) (c : Char) : Char :=
  match first.reverse.idxOf? c with
  | none => c
  | some k =>
    let at_ := first.length - 1 - k
    second[at_]?.getD (second.getLastD c)

/-- Drops characters of a set that stand behind the same one. -/
def squeezed (isIn : Char → Bool) : Option Char → Octets → Octets
  | _, [] => []
  | before, c :: cs =>
    if isIn c && before == some c then squeezed isIn before cs
    else c :: squeezed isIn (some c) cs

def tr (argv _ : List Octets) : Routine Nat := do
  let (name, args) := called argv
  (knownInFront "cCdst" "" [("complement", 'c'), ("delete", 'd'), ("squeeze-repeats", 's'),
    ("truncate-set1", 't')]).parse 1 name args fun g => do
    let sets := g.operands.map fun s => charSet (s.length + 1) s
    match sets with
    | [] => missing name "missing operand"
    | first :: more =>
      let second := more.headD []
      if more.isEmpty && !g.has 'd' && !g.has 's' then
        return ← missing name ("missing operand after " ++ String.ofList (inQuotes (g.operands.headD [])))
      let first := if g.has 'c' || g.has 'C' then
          ((List.range 256).map Char.ofNat).filter fun c => !first.contains c
        else first
      let first := if g.has 't' then first.take second.length else first
      let change (s : Octets) : Octets :=
        if g.has 'd' then s.filter fun c => !first.contains c
        else if more.isEmpty then s
        else s.map (replacement first second)
      let squeezing (c : Char) : Bool :=
        g.has 's' && (if more.isEmpty then first else second).contains c
      let (stretch, _, kept) ← passing 0 (fun ((before, kept) : Option Char × Octets) piece =>
        let out := squeezed squeezing before (change piece)
        let (now, later) := wholeBlocks (kept ++ out)
        (now, (out.getLast?.or before, later), true)) (none, [])
      match stretch with
      | .unread cause =>
        complainOf name "read error".toList cause
        return 1
      | .unwritten cause =>
        complainOf name "write error".toList cause
        return 1
      | .done => print name kept

end DevServer.Program
