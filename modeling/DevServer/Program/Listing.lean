import DevServer.Program.Tree
import DevServer.Shell.Pattern

/-!
# Looking at trees of files

Names in directories, what is known of files, and the paths below a directory that meet conditions.
-/

namespace DevServer.Program

open Failure (Cause)
open Process (Request Routine Status)
open Text (Octets)

def bytesLE (a b : Octets) : Bool := Path.compareBytes a.toBytes b.toBytes != .gt

/-! ### Listings -/

/-- Permissions in letters. -/
def modeText (s : Status) : Octets :=
  let has (n bit : Nat) : Bool := n &&& bit != 0
  let bits (n special : Nat) (letter : Char) : Octets :=
    [if has n 4 then 'r' else '-', if has n 2 then 'w' else '-',
      match has s.mode special, has n 1 with
      | true, true => letter
      | true, false => letter.toUpper
      | false, true => 'x'
      | false, false => '-']
  (if s.isDirectory then 'd' else if s.isLink then 'l' else if s.isRegular then '-' else 'c') ::
    bits (s.mode / 64) 0o4000 's' ++ bits (s.mode / 8) 0o2000 's' ++ bits s.mode 0o1000 't'

/-- How names are listed. -/
structure Style where
  hidden : Bool
  dots : Bool
  marked : Bool
  long : Bool
  byTime : Bool
  bySize : Bool
  reversed : Bool
  unsorted : Bool
  recursive : Bool

namespace Style

/-- One name in a listing, with the path that it stands for. -/
def entry (o : Style) (path name : Octets) (s : Status) : Routine Octets := do
  let mark : Octets :=
    if !o.marked then []
    else if s.isDirectory then ['/']
    else if s.isLink && !o.long then ['@']
    else if s.isRegular && s.mode &&& 0o111 != 0 then ['*']
    else []
  if o.long then
    let leads ← if s.isLink then do
        let target ← Routine.ask (.readLink path)
        pure (" -> ".toList ++ target.toOption.getD [])
      else pure []
    return line (modeText s ++ " 1 root root ".toList ++ Nat.toDigits 10 s.size ++
      " Jan  1 00:00 ".toList ++ name ++ mark ++ leads)
  else return line (name ++ mark)

/-- Names with what they stand for, in the order of a listing. -/
def arrange (o : Style) (entries : List (Octets × Status)) : List (Octets × Status) :=
  let sorted := if o.unsorted then entries else entries.mergeSort fun a b =>
    let key : Ordering :=
      if o.byTime then compare b.2.changed a.2.changed
      else if o.bySize then compare b.2.size a.2.size
      else .eq
    key == .lt || (key == .eq && bytesLE a.1 b.1)
  if o.reversed then sorted.reverse else sorted

/-- The statuses of names in a directory. -/
def look (directory : Octets) (names : List Octets) : Routine (List (Octets × Status)) := do
  let found ← names.mapM fun n => do
    let status : Except Cause Status ← statusOf (under directory n) false
    return status.toOption.map (n, ·)
  return found.filterMap id

/-- The listing of a directory, and of those below it up to a depth. -/
def directory (o : Style) (name : Octets) (titles : Bool) : Nat → Bool → Octets → Routine (Octets × Bool)
  | 0, _, _ => return ([], false)
  | depth + 1, first, path => do
    match ← Routine.ask (.list path) with
    | .error cause =>
      complainOf name ("cannot open directory ".toList ++ inQuotes path) cause
      return ([], false)
    | .ok names =>
      let all := (if o.dots then [['.'], ['.', '.']] else []) ++ names
      let entries ← look path (if o.hidden then all else all.filter fun n => n.head? != some '.')
      let arranged := o.arrange entries
      let lines ← arranged.mapM fun (n, s) => o.entry (under path n) n s
      let title : Octets := if titles then (if first then [] else ['\n']) ++ path ++ ":\n".toList else []
      let total : Octets := if o.long then "total 0\n".toList else []
      let body := title ++ total ++ lines.flatten
      if o.recursive then
        let directories := arranged.filter fun (n, s) => s.isDirectory && n != ['.'] && n != ['.', '.']
        let more ← directories.mapM fun (n, _) =>
          directory o name true depth false (under path n)
        return (body ++ more.flatMap (·.1), more.all (·.2))
      else return (body, true)

end Style

def ls (argv _ : List Octets) : Routine Nat := do
  let (name, args) := called argv
  (known "aA1dFlRrtShpiUnfgGoqcuXs" "Iw" [("all", 'a'), ("almost-all", 'A'), ("directory", 'd'),
    ("classify", 'F'), ("recursive", 'R'), ("reverse", 'r'), ("color", 'G')]).parse 2 name args fun g => do
    let has (cs : String) : Bool := cs.toList.any g.has
    let o : Style := ⟨has "aAf", has "af" && !has "A", has "Fp", has "lngo", has "t", has "S", has "r",
      has "Uf", has "R"⟩
    let operands := if g.operands.isEmpty then [['.']] else g.operands
    let mut status := 0
    let mut files : List (Octets × Status) := []
    let mut directories : List (Octets × Status) := []
    for path in operands do
      let found : Except Cause Status ← statusOf path (!o.long && !o.marked)
      match found with
      | .error cause =>
        complainOf name ("cannot access ".toList ++ inQuotes path) cause
        status := 2
      | .ok s =>
        if s.isDirectory && !has "d" then directories := directories ++ [(path, s)]
        else files := files ++ [(path, s)]
    let lines ← (o.arrange files).mapM fun (p, s) => o.entry p p s
    let mut text := lines.flatten
    let titles := 1 < operands.length || o.recursive
    let mut first := files.isEmpty
    for (path, _) in o.arrange directories do
      let (body, good) ← o.directory name titles deepestTree first path
      text := text ++ body
      first := false
      if !good then status := max status 1
    return max status (← print name text)

/-! ### What is known of files -/

/-- What a letter stands for in the format of `stat`. -/
def statusText (path : Octets) (s : Status) : Char → Octets
  | 'n' => path
  | 's' => Nat.toDigits 10 s.size
  | 'a' => Nat.toDigits 8 s.mode
  | 'A' => modeText s
  | 'F' =>
    (if s.isDirectory then "directory"
      else if s.isLink then "symbolic link"
      else if !s.isRegular then "character special file"
      else if s.size = 0 then "regular empty file" else "regular file").toList
  | 'Y' | 'Z' | 'X' => Nat.toDigits 10 (s.changed / 1000000)
  | 'i' => Nat.toDigits 10 s.node
  | 'U' | 'G' => "root".toList
  | 'u' | 'g' => ['0']
  | 'h' => ['1']
  | c => ['%', c]

def statusLine (path : Octets) (s : Status) : Octets → Octets
  | '%' :: '%' :: cs => '%' :: statusLine path s cs
  | '%' :: c :: cs => statusText path s c ++ statusLine path s cs
  | c :: cs => c :: statusLine path s cs
  | [] => []

def stat (argv _ : List Octets) : Routine Nat := do
  let (name, args) := called argv
  (known "Lft" "cP" [("format", 'c'), ("printf", 'P'), ("dereference", 'L')]).parse 1 name args fun g => do
    let mut status := 0
    for path in g.operands do
      match ← statusOf path (g.has 'L') with
      | .error cause =>
        complainOf name ("cannot statx ".toList ++ inQuotes path) cause
        status := 1
      | .ok s =>
        let text := match g.last? 'c', g.last? 'P' with
          | some format, _ => line (statusLine path s format)
          | none, some format => (Shell.formatted (statusLine path s format) []).1
          | none, none => line ("  File: ".toList ++ path)
        status := max status (← print name text)
    return status

/-! ### Finding -/

/-- A condition on a path, or something that is done with it. -/
inductive Finding where
  | name (pattern : List Shell.Glob) (ignoresCase : Bool)
  | path (pattern : List Shell.Glob)
  | kind (letters : Octets)
  | empty
  | newer (time : Nat)
  | size (f : Nat → Bool)
  | print (finish : Char)
  | delete
  | prune
  | quit
  | true_
  | run (words : List Octets)
  | runAll (words : List Octets)
  | not (f : Finding)
  | and (a b : Finding)
  | or (a b : Finding)

/-- What comes of looking at a path: paths that are run together, whether the way goes on below, and
what is written. -/
structure Found where
  together : List Octets
  pruned : Bool
  quits : Bool
  failed : Bool

abbrev Find := StateT Found Routine

namespace Finding

/-- Whether a finding does something by itself. -/
def acts : Finding → Bool
  | print _ | delete | run _ | runAll _ | quit => true
  | not f => f.acts
  | and a b | or a b => a.acts || b.acts
  | _ => false

/-- A pattern in which a circumflex too turns a set round. -/
def globOfText (s : Octets) : List Shell.Glob :=
  let turned (c before : Char) : Char := if c = '^' && before = '[' then '!' else c
  Shell.globOf ((List.zipWith turned s (' ' :: s)).map fun c => (c, false))

/-- A condition on a number with a sign in front. -/
def compared (s : Octets) (unit : Nat) : Nat → Bool :=
  let n (ds : Octets) : Nat := Shell.valueInBase 10 (ds.takeWhile Char.isDigit)
  let rounded (k : Nat) : Nat := (k + unit - 1) / unit
  match s with
  | '+' :: ds => fun k => n ds < rounded k
  | '-' :: ds => fun k => rounded k < n ds
  | ds => fun k => rounded k == n ds

/-- The bytes of a unit of size. -/
def unitOf (s : Octets) : Nat :=
  match s.getLast? with
  | some 'c' => 1
  | some 'k' => 1024
  | some 'M' => 1048576
  | some 'w' => 2
  | _ => 512

mutual

/-- Findings of which one will do. -/
def readOr : Nat → List Octets → Routine (Except Octets (Finding × List Octets))
  | 0, _ => return .error "expression too long".toList
  | fuel + 1, args => do
    match ← readAnd fuel args with
    | .error text => return .error text
    | .ok (a, rest) =>
      match rest with
      | ['-', 'o'] :: rest | ['-', 'o', 'r'] :: rest =>
        return (← readOr fuel rest).map fun (b, rest) => (.or a b, rest)
      | rest => return .ok (a, rest)

def readAnd : Nat → List Octets → Routine (Except Octets (Finding × List Octets))
  | 0, _ => return .error "expression too long".toList
  | fuel + 1, args => do
    match ← readNot fuel args with
    | .error text => return .error text
    | .ok (a, rest) =>
      let more (rest : List Octets) : Routine (Except Octets (Finding × List Octets)) := do
        return (← readAnd fuel rest).map fun (b, rest) => (.and a b, rest)
      match rest with
      | [] | ['-', 'o'] :: _ | ['-', 'o', 'r'] :: _ | [')'] :: _ => return .ok (a, rest)
      | ['-', 'a'] :: rest | ['-', 'a', 'n', 'd'] :: rest => more rest
      | rest => more rest

def readNot : Nat → List Octets → Routine (Except Octets (Finding × List Octets))
  | 0, _ => return .error "expression too long".toList
  | fuel + 1, args => do
    match args with
    | ['!'] :: rest | ['-', 'n', 'o', 't'] :: rest =>
      return (← readNot fuel rest).map fun (f, rest) => (.not f, rest)
    | ['('] :: rest =>
      match ← readOr fuel rest with
      | .ok (f, [')'] :: rest) => return .ok (f, rest)
      | .ok _ => return .error "invalid expression".toList
      | .error text => return .error text
    | word :: rest =>
      let taking (f : Octets → Finding) : Except Octets (Finding × List Octets) :=
        match rest with
        | a :: rest => .ok (f a, rest)
        | [] => .error ("missing argument to `".toList ++ word ++ ['\''])
      match String.ofList word with
      | "-name" => return taking fun a => .name (globOfText a) false
      | "-iname" => return taking fun a => .name (globOfText (a.map Char.toLower)) true
      | "-path" | "-wholename" => return taking fun a => .path (globOfText a)
      | "-type" => return taking .kind
      | "-size" => return taking fun a => .size (compared a (unitOf a))
      | "-empty" => return .ok (.empty, rest)
      | "-print" => return .ok (.print '\n', rest)
      | "-print0" => return .ok (.print '\x00', rest)
      | "-delete" => return .ok (.delete, rest)
      | "-prune" => return .ok (.prune, rest)
      | "-quit" => return .ok (.quit, rest)
      | "-true" => return .ok (.true_, rest)
      | "-newer" =>
        match rest with
        | [] => return .error "missing argument to `-newer'".toList
        | a :: rest =>
          match ← statusOf a true with
          | .ok s => return .ok (.newer s.changed, rest)
          | .error cause => return .error (inQuotes a ++ ": ".toList ++ causeText cause)
      | "-exec" =>
        let words := rest.takeWhile fun w => w != [';'] && w != ['+']
        match rest.drop words.length with
        | [';'] :: rest => return .ok (.run words, rest)
        | ['+'] :: rest => return .ok (.runAll words.dropLast, rest)
        | _ => return .error "missing argument to `-exec'".toList
      | _ => return .error ("unknown predicate `".toList ++ word ++ ['\''])
    | [] => return .error "invalid expression".toList

end

/-- A word with a path in the place of braces. -/
def filled (path : Octets) : Octets → Octets
  | '\x7b' :: '\x7d' :: cs => path ++ filled path cs
  | c :: cs => c :: filled path cs
  | [] => []

/-- What a finding says of a path; `run` runs a command and gives its status. -/
def holds (name : Octets) (runs : List Octets → Routine Nat) (path : Octets) (s : Status) :
    Finding → Find Bool
  | .name pattern ignoresCase => do
    let n := lastName path
    return Shell.globMatches pattern (if ignoresCase then n.map Char.toLower else n)
  | .path pattern => return Shell.globMatches pattern path
  | .kind letters =>
    return letters.any fun c =>
      (c == 'd' && s.isDirectory) || (c == 'l' && s.isLink) ||
        (c == 'f' && s.isRegular && !s.isLink && !s.isDirectory)
  | .empty => do
    if s.isDirectory then
      let names ← liftM (Routine.ask (.list path))
      return names.toOption.any (·.isEmpty)
    else return s.isRegular && s.size = 0
  | .newer time => return decide (time < s.changed)
  | .size f => return f s.size
  | .print finish => do
    let _ ← liftM (Routine.writeAll 1 (path ++ [finish]))
    return true
  | .delete => do
    let result ← liftM (edit (if s.isDirectory then .removeDirectory path.toBytes else .unlink path.toBytes))
    match result with
    | .ok () => return true
    | .error cause =>
      liftM (complainOf name ("cannot delete ".toList ++ inQuotes path) cause)
      modify fun f => { f with failed := true }
      return false
  | .prune => do
    modify fun f => { f with pruned := true }
    return true
  | .quit => do
    modify fun f => { f with quits := true }
    return true
  | .true_ => return true
  | .run words => do
    let status ← liftM (runs (words.map (filled path)))
    return decide (status = 0)
  | .runAll _ => do
    modify fun f => { f with together := f.together ++ [path] }
    return true
  | .not f => do return !(← holds name runs path s f)
  | .and a b => do if ← holds name runs path s a then holds name runs path s b else return false
  | .or a b => do if ← holds name runs path s a then return true else holds name runs path s b

/-- The commands that are run for all paths together. -/
def together : Finding → List (List Octets)
  | .runAll words => [words]
  | .not f => f.together
  | .and a b | .or a b => a.together ++ b.together
  | _ => []

/-- Whether a finding deletes, so that what is below a directory comes first. -/
def deletes : Finding → Bool
  | .delete => true
  | .not f => f.deletes
  | .and a b | .or a b => a.deletes || b.deletes
  | _ => false

end Finding

/-- Where one looks, between two depths. -/
structure Depths where
  least : Nat
  most : Option Nat
  /-- Whether what is below a directory comes first. -/
  below : Bool

/-- Looks at a path and at all below it. -/
def visit (name : Octets) (runs : List Octets → Routine Nat) (d : Depths) (f : Finding) :
    Nat → Nat → Octets → Find Unit
  | 0, _, _ => return ()
  | fuel + 1, depth, path => do
    if (← get).quits then return ()
    match ← liftM (statusOf path false) with
    | .error cause =>
      liftM (complainOf name (inQuotes path) cause)
      modify fun f => { f with failed := true }
    | .ok s =>
      let look : Find Unit := do
        if d.least ≤ depth then
          let _ ← Finding.holds name runs path s f
      modify fun f => { f with pruned := false }
      if !d.below then look
      let pruned := (← get).pruned && !d.below
      if s.isDirectory && !pruned && d.most.all (depth < ·) then
        match ← liftM (Routine.ask (.list path)) with
        | .error cause =>
          liftM (complainOf name (inQuotes path) cause)
          modify fun f => { f with failed := true }
        | .ok names =>
          for n in names do visit name runs d f fuel (depth + 1) (under path n)
      if d.below then look

/-- Takes the global options out of an expression. -/
def globalOptions : Depths → List Octets → Depths × List Octets
  | d, [] => (d, [])
  | d, a :: rest =>
    match String.ofList a, rest with
    | "-maxdepth", n :: rest => globalOptions { d with most := some (Shell.valueInBase 10 n) } rest
    | "-mindepth", n :: rest => globalOptions { d with least := Shell.valueInBase 10 n } rest
    | "-depth", rest => globalOptions { d with below := true } rest
    | "-xdev", rest => globalOptions d rest
    | _, rest =>
      let (d, rest) := globalOptions d rest
      (d, a :: rest)

def find (runs : List Octets → Routine Nat) (argv _ : List Octets) : Routine Nat := do
  let (name, args) := called argv
  let isPath (a : Octets) : Bool := a.head? != some '-' && a != ['!'] && a != ['(']
  let paths := args.takeWhile isPath
  let (depths, words) := globalOptions ⟨0, none, false⟩ (args.drop paths.length)
  let read ← if words.isEmpty then pure (.ok (.true_, []))
    else Finding.readOr (8 * words.length + 16) words
  match read with
  | .error text =>
    complain name text
    return 1
  | .ok (f, rest) =>
    if !rest.isEmpty then
      complain name "invalid expression".toList
      return 1
    let f : Finding := if f.acts then f else .and f (.print '\n')
    let depths := { depths with below := depths.below || f.deletes }
    let look : Find Unit := do
      for path in (if paths.isEmpty then [['.']] else paths) do
        visit name runs depths f deepestTree 0 path
    let ((), found) ← look.run ⟨[], false, false, false⟩
    let mut failed := found.failed
    for words in f.together do
      if !found.together.isEmpty then
        if (← runs (words ++ found.together)) != 0 then failed := true
    return if failed then 1 else 0

end DevServer.Program
