import DevServer.Program.Output

/-!
# Programs on trees of files

Directories, files and links are made, moved, copied and removed.
-/

namespace DevServer.Program

open Failure (Cause)
open Process (Request Routine Status)
open Text (Octets)

def statusOf (path : Octets) (through : Bool) : Routine (Except Cause Status) :=
  Routine.ask (.status path through)

def edit (e : FileEdit) : Routine (Except Cause Unit) := Routine.ask (.edit e)

def isDirectory (path : Octets) : Routine Bool := do
  let status : Except Cause Status ← statusOf path true
  return status.toOption.any (·.isDirectory)

def under (directory name : Octets) : Octets :=
  if directory.getLast? = some '/' then directory ++ name else directory ++ '/' :: name

/-- Does something for each operand; a cause is complained of. -/
def eachOperand (name : Octets) (what : Octets → Octets) (f : Octets → Routine (Except Cause Unit))
    (operands : List Octets) : Routine Nat := do
  let mut status := 0
  for path in operands do
    match ← f path with
    | .ok () => pure ()
    | .error cause =>
      complainOf name (what path) cause
      status := 1
  return status

/-! ### Making -/

def openingToTouch : Opening := ⟨false, true, some 0o666, false, false, false⟩

/-- The time that an argument stands for; one that is not in seconds is long ago. -/
def timeOf (s : Octets) : Nat :=
  match s with
  | '@' :: ds => Shell.valueInBase 10 (ds.takeWhile Char.isDigit) * 1000000
  | _ => 0

def touch (argv _ : List Octets) : Routine Nat := do
  let (name, args) := called argv
  (known "acfhm" "drt" [("no-create", 'c'), ("date", 'd'), ("reference", 'r')]).parse 1 name args
    fun g => do
    if g.operands.isEmpty then return ← missing name "missing file operand"
    let time ← match g.lastOf ['d', 't', 'r'] with
      | none => pure none
      | some 'r' => do
        match ← statusOf ((g.last? 'r').getD []) true with
        | .ok status => pure (some status.changed)
        | .error cause =>
          complainOf name ("failed to get attributes of ".toList ++ inQuotes ((g.last? 'r').getD [])) cause
          return 1
      | some c => pure (some (timeOf ((g.last? c).getD [])))
    eachOperand name (fun p => "cannot touch ".toList ++ inQuotes p) (fun path => do
      let opened ← if g.has 'c' then pure (.error .notFound)
        else Routine.ask (.open path openingToTouch)
      if let .ok d := opened then
        let _ ← Routine.ask (.close d)
      match ← edit (.touch path.toBytes time), opened with
      | .ok (), _ => return .ok ()
      | .error cause, .error first =>
        return if g.has 'c' && cause = .notFound then .ok ()
          else if g.has 'c' then .error cause
          else .error first
      | .error cause, .ok _ => return .error cause) g.operands

/-- Makes a directory and those above it that are not there. -/
def makePath (mode : Nat) : Nat → Octets → Routine (Except Cause Unit)
  | 0, _ => return .error .notFound
  | fuel + 1, path => do
    match ← edit (.makeDirectory path.toBytes mode) with
    | .ok () => return .ok ()
    | .error cause =>
      if cause = .alreadyThere then
        return if ← isDirectory path then .ok () else .error cause
      else if cause = .notFound && upperPath path != path then
        match ← makePath 0o777 fuel (upperPath path) with
        | .error cause => return .error cause
        | .ok () => edit (.makeDirectory path.toBytes mode)
      else return .error cause

def mkdir (argv _ : List Octets) : Routine Nat := do
  let (name, args) := called argv
  (known "pvZ" "m" [("parents", 'p'), ("mode", 'm'), ("verbose", 'v')]).parse 1 name args fun g => do
    if g.operands.isEmpty then return ← missing name "missing operand"
    let mode := ((g.last? 'm').bind (Shell.modeOf? 0o777)).getD 0o777
    eachOperand name (fun p => "cannot create directory ".toList ++ inQuotes p) (fun path => do
      let result ← if g.has 'p' then makePath mode (path.length + 1) path
        else edit (.makeDirectory path.toBytes mode)
      if result.toBool && g.has 'v' then
        let _ ← print name (line (name ++ ": created directory ".toList ++ inQuotes path))
      if result.toBool && g.has 'm' then
        let _ ← edit (.setMode path.toBytes mode)
      return result) g.operands

/-- The name of a new file for a template, whose last letters are replaced. -/
def newName (number : Nat) (template : Octets) : Octets :=
  let body := (template.reverse.dropWhile (· == 'X')).reverse
  let ds := Nat.toDigits 36 0 ++ Nat.toDigits 10 number
  let size := template.length - body.length
  body ++ List.replicate (size - ds.length) 'a' ++ ds.drop (ds.length - size)

/-- Makes a file or a directory whose name is new; so many names are tried. -/
def makeNew (directory : Bool) (template : Octets) : Nat → Nat → Routine (Except Cause Octets)
  | 0, _ => return .error .alreadyThere
  | tries + 1, number => do
    let path := newName number template
    let result ← if directory then edit (.makeDirectory path.toBytes 0o700)
      else do
        let opened ← Routine.ask (.open path ⟨true, true, some 0o600, true, false, false⟩)
        pure (opened.map fun _ => ())
    match result with
    | .ok () => return .ok path
    | .error cause =>
      if cause = .alreadyThere then makeNew directory template tries (number + 1)
      else return .error cause

def mktemp (argv environment : List Octets) : Routine Nat := do
  let (name, args) := called argv
  (known "duqt" "p" [("directory", 'd'), ("dry-run", 'u'), ("quiet", 'q'), ("tmpdir", 'p')]).parse 1 name
    args fun g => do
    let place := ((g.last? 'p').orElse fun _ => valueIn environment "TMPDIR".toList).getD "/tmp".toList
    let template := match g.operands with
      | [] => under place "tmp.XXXXXXXXXX".toList
      | t :: _ => if g.has 't' || g.has 'p' then under place t else t
    let number : Nat ← Routine.ask .ownNumber
    match ← makeNew (g.has 'd') template 1000 number with
    | .ok path => print name (line path)
    | .error cause =>
      complainOf name ("failed to create file via template ".toList ++ inQuotes template) cause
      return 1

/-! ### Removing -/

def rmdir (argv _ : List Octets) : Routine Nat := do
  let (name, args) := called argv
  (known "pv" "" [("parents", 'p'), ("ignore-fail-on-non-empty", 'i')]).parse 1 name args fun g => do
    if g.operands.isEmpty then return ← missing name "missing operand"
    let paths := g.operands.flatMap fun path =>
      if g.has 'p' then
        (List.range path.length).foldl (fun paths _ =>
          match paths.getLast? with
          | some p => if p.contains '/' && upperPath p != p then paths ++ [upperPath p] else paths
          | none => paths) [path]
      else [path]
    eachOperand name (fun p => "failed to remove ".toList ++ inQuotes p)
      (fun path => edit (.removeDirectory path.toBytes)) paths

/-- Removes what is at a path and all below it, which is at most so deep. -/
def removeTree (name : Octets) (tell : Octets → Routine Unit) : Nat → Octets → Routine Bool
  | 0, _ => return false
  | depth + 1, path => do
    let failed (cause : Cause) : Routine Bool := do
      complainOf name ("cannot remove ".toList ++ inQuotes path) cause
      return false
    match ← statusOf path false with
    | .error cause => failed cause
    | .ok status =>
      if status.isDirectory then
        match ← Routine.ask (.list path) with
        | .error cause => failed cause
        | .ok names =>
          let good ← names.mapM fun n => removeTree name tell depth (under path n)
          if !good.all id then return false
          match ← edit (.removeDirectory path.toBytes) with
          | .ok () =>
            tell ("removed directory ".toList ++ inQuotes path)
            return true
          | .error cause => failed cause
      else
        match ← edit (.unlink path.toBytes) with
        | .ok () =>
          tell ("removed ".toList ++ inQuotes path)
          return true
        | .error cause => failed cause

/-- Trees are at most so deep. -/
def deepestTree : Nat := 4096

def rm (argv _ : List Octets) : Routine Nat := do
  let (name, args) := called argv
  (known "dfiIrRv" "" [("force", 'f'), ("recursive", 'r'), ("dir", 'd'), ("verbose", 'v'),
    ("interactive", 'I'), ("one-file-system", 'I'), ("preserve-root", 'I')]).parse 1 name args fun g => do
    let force := g.lastOf ['f', 'i'] == some 'f'
    if g.operands.isEmpty && !force then return ← missing name "missing operand"
    let tell (text : Octets) : Routine Unit := do
      if g.has 'v' then
        let _ ← print name (line text)
    let mut status := 0
    for path in g.operands do
      let last := lastName path
      if last = ['.'] || last = ['.', '.'] then
        complain name ("refusing to remove '.' or '..' directory: skipping ".toList ++ inQuotes path)
        status := 1
      else
        match ← statusOf path false with
        | .error cause =>
          if !(force && (cause = .notFound || cause = .notDirectory)) then
            complainOf name ("cannot remove ".toList ++ inQuotes path) cause
            status := 1
        | .ok found =>
          if found.isDirectory && !(g.has 'r' || g.has 'R') then
            let result ← if g.has 'd' then edit (.removeDirectory path.toBytes)
              else pure (.error .isDirectory)
            match result with
            | .ok () => pure ()
            | .error cause =>
              complainOf name ("cannot remove ".toList ++ inQuotes path) cause
              status := 1
          else if !(← removeTree name tell deepestTree path) then status := 1
    return status

def unlink (argv _ : List Octets) : Routine Nat := do
  let (name, args) := called argv
  match args with
  | [path] =>
    eachOperand name (fun p => "cannot unlink ".toList ++ inQuotes p) (fun p => edit (.unlink p.toBytes))
      [path]
  | [] => missing name "missing operand"
  | _ => missing name ("extra operand " ++ String.ofList (inQuotes (args.getD 1 [])))

/-! ### Moving and copying -/

/-- The sources of a program that moves or copies, each with its target; a target that is a directory
takes them in. -/
def targets (name : Octets) (g : Given) (noDirectory : Bool) :
    Routine (Except Nat (List (Octets × Octets))) := do
  let into (directory : Octets) (sources : List Octets) : List (Octets × Octets) :=
    sources.map fun s => (s, under directory (lastName s))
  match g.last? 't', g.operands with
  | some directory, sources =>
    if ← isDirectory directory then return .ok (into directory sources)
    complain name ("target directory ".toList ++ inQuotes directory ++ ": No such file or directory".toList)
    return .error 1
  | none, [] => return .error (← missing name "missing file operand")
  | none, [source] =>
    return .error (← missing name
      ("missing destination file operand after " ++ String.ofList (inQuotes source)))
  | none, operands =>
    let target := operands.getLastD []
    let sources := operands.dropLast
    if !noDirectory && (← isDirectory target) then return .ok (into target sources)
    match sources with
    | [source] => return .ok [(source, target)]
    | _ =>
      complain name ("target ".toList ++ inQuotes target ++ ": No such file or directory".toList)
      return .error 1

/-- Whether two paths lead to the same node. -/
def isSame (a b : Octets) : Routine Bool := do
  let first : Except Cause Status ← statusOf a true
  let second : Except Cause Status ← statusOf b true
  return match first, second with
    | .ok a, .ok b => a.node == b.node
    | _, _ => false

def mv (argv _ : List Octets) : Routine Nat := do
  let (name, args) := called argv
  (known "finTuvbZ" "tS" [("force", 'f'), ("no-clobber", 'n'), ("target-directory", 't'),
    ("no-target-directory", 'T'), ("verbose", 'v')]).parse 1 name args fun g => do
    match ← targets name g (g.has 'T') with
    | .error status => return status
    | .ok pairs =>
      let mut status := 0
      for (source, target) in pairs do
        let there : Except Cause Status ← statusOf target false
        match ← statusOf source false with
        | .error cause =>
          complainOf name ("cannot stat ".toList ++ inQuotes source) cause
          status := 1
        | .ok found =>
          if g.has 'n' && there.toBool then pure ()
          else if there.toOption.any (·.node == found.node) then
            complain name (inQuotes source ++ " and ".toList ++ inQuotes target ++
              " are the same file".toList)
            status := 1
          else if there.toOption.any (·.isDirectory) && !found.isDirectory then
            complain name ("cannot overwrite directory ".toList ++ inQuotes target ++
              " with non-directory".toList)
            status := 1
          else match ← edit (.rename source.toBytes target.toBytes) with
            | .ok () =>
              if g.has 'v' then
                let _ ← print name (line ("renamed ".toList ++ inQuotes source ++ " -> ".toList ++
                  inQuotes target))
            | .error cause =>
              if cause = .invalid then
                complain name ("cannot move ".toList ++ inQuotes source ++
                  " to a subdirectory of itself, ".toList ++ inQuotes target)
              else
                complainOf name ("cannot move ".toList ++ inQuotes source ++ " to ".toList ++
                  inQuotes target) cause
              status := 1
      return status

/-- Copies the bytes of one descriptor to another. -/
def copyBytes (source sink : Nat) : Routine (Except Cause Unit) :=
  Routine.repeated (fun (_ : Unit) => do
    match ← Routine.ask (.read source Routine.readSize) with
    | .error cause => return .inr (.error cause)
    | .ok [] => return .inr (.ok ())
    | .ok piece =>
      match ← Routine.writeAll sink piece with
      | .error cause => return .inr (.error cause)
      | .ok () => return .inl ()) (fun _ => .ok ()) Routine.manyTurns ()

/-- What a program that copies is asked for. -/
structure Copying where
  recursive : Bool
  links : Bool
  keepsTime : Bool
  keepsOld : Bool
  force : Bool

/-- Copies a file, or a tree of a depth. -/
def copyTree (name : Octets) (k : Copying) : Nat → Octets → Octets → Routine Bool
  | 0, _, _ => return false
  | depth + 1, source, target => do
    let failed (what : Octets) (cause : Cause) : Routine Bool := do
      complainOf name what cause
      return false
    match ← statusOf source (!k.links) with
    | .error cause => failed ("cannot stat ".toList ++ inQuotes source) cause
    | .ok status =>
      let there : Except Cause Status ← statusOf target true
      let keepTime : Routine Unit := do
        if k.keepsTime then
          let _ ← edit (.touch target.toBytes (some status.changed))
      if status.isDirectory then
        if !k.recursive then
          complain name ("-r not specified; omitting directory ".toList ++ inQuotes source)
          return false
        if there.toOption.any (!·.isDirectory) then
          complain name ("cannot overwrite non-directory ".toList ++ inQuotes target ++
            " with directory ".toList ++ inQuotes source)
          return false
        let made ← if there.toBool then pure (.ok ())
          else edit (.makeDirectory target.toBytes status.mode)
        match made with
        | .error cause => failed ("cannot create directory ".toList ++ inQuotes target) cause
        | .ok () =>
          match ← Routine.ask (.list source) with
          | .error cause => failed ("cannot access ".toList ++ inQuotes source) cause
          | .ok names =>
            let good ← names.mapM fun n => copyTree name k depth (under source n) (under target n)
            keepTime
            return good.all id
      else if k.keepsOld && there.toBool then return true
      else if there.toOption.any (·.isDirectory) then
        complain name ("cannot overwrite directory ".toList ++ inQuotes target ++
          " with non-directory".toList)
        return false
      else if ← isSame source target then
        complain name (inQuotes source ++ " and ".toList ++ inQuotes target ++ " are the same file".toList)
        return false
      else if status.isLink then
        match ← Routine.ask (.readLink source) with
        | .error cause => failed ("cannot read symbolic link ".toList ++ inQuotes source) cause
        | .ok leads =>
          if there.toBool then
            let _ ← edit (.unlink target.toBytes)
          match ← edit (.link leads.toBytes target.toBytes) with
          | .error cause => failed ("cannot create symbolic link ".toList ++ inQuotes target) cause
          | .ok () => return true
      else match ← Routine.ask (.open source .reading) with
        | .error cause => failed ("cannot open ".toList ++ inQuotes source ++ " for reading".toList) cause
        | .ok from_ =>
          match ← Routine.ask (.open target (.writing status.mode)) with
          | .error cause =>
            let _ ← Routine.ask (.close from_)
            failed ("cannot create regular file ".toList ++ inQuotes target) cause
          | .ok sink =>
            let result ← copyBytes from_ sink
            let _ ← Routine.ask (.close from_)
            let _ ← Routine.ask (.close sink)
            keepTime
            match result with
            | .ok () => return true
            | .error cause => failed ("error copying ".toList ++ inQuotes source) cause

def cp (argv _ : List Octets) : Routine Nat := do
  let (name, args) := called argv
  (known "abdfHilLnpPrRsTuvxZ" "tS" [("recursive", 'r'), ("archive", 'a'), ("force", 'f'),
    ("no-clobber", 'n'), ("target-directory", 't'), ("no-target-directory", 'T'), ("preserve", 'p'),
    ("no-dereference", 'P'), ("verbose", 'v'), ("update", 'u')]).parse 1 name args fun g => do
    match ← targets name g (g.has 'T') with
    | .error status => return status
    | .ok pairs =>
      let has (cs : String) : Bool := cs.toList.any g.has
      let k : Copying := ⟨has "rRa", has "adP" || (has "rR" && !has "LH"), has "ap", has "n", has "f"⟩
      let good ← pairs.mapM fun (source, target) => do
        let good ← copyTree name k deepestTree source target
        if good && g.has 'v' then
          let _ ← print name (line (inQuotes source ++ " -> ".toList ++ inQuotes target))
        return good
      return if good.all id then 0 else 1

/-! ### Links -/

def ln (argv _ : List Octets) : Routine Nat := do
  let (name, args) := called argv
  (known "sfnrTvbiLP" "tS" [("symbolic", 's'), ("force", 'f'), ("no-dereference", 'n'),
    ("target-directory", 't'), ("no-target-directory", 'T'), ("relative", 'r')]).parse 1 name args fun g => do
    let alone := g.operands.length = 1 && (g.last? 't').isNone
    let g := if alone then { g with operands := g.operands ++ [['.']] } else g
    let target := g.operands.getLastD []
    let there : Except Cause Status ← statusOf target false
    let isLink := there.toOption.any (·.isLink)
    match ← targets name g (g.has 'T' || (g.has 'n' && isLink)) with
    | .error status => return status
    | .ok pairs =>
      let mut status := 0
      for (source, path) in pairs do
        if g.has 'f' then
          let _ ← edit (.unlink path.toBytes)
        let result ← edit (if g.has 's' then .link source.toBytes path.toBytes
          else .alias_ source.toBytes path.toBytes)
        match result with
        | .ok () => pure ()
        | .error cause =>
          let what := if g.has 's' then "failed to create symbolic link ".toList ++ inQuotes path
            else if cause = .notFound then "failed to access ".toList ++ inQuotes source
            else "failed to create hard link ".toList ++ inQuotes path
          complainOf name what cause
          status := 1
      return status

/-- The path without links, from names that are still to be followed; so many steps are made. -/
def resolved (needsLast : Bool) : Nat → Octets → List Octets → Routine (Except Cause Octets)
  | 0, _, _ => return .error .linkLoop
  | _ + 1, at_, [] => return .ok (if at_.isEmpty then ['/'] else at_)
  | fuel + 1, at_, n :: names => do
    if n.isEmpty || n = ['.'] then resolved needsLast fuel at_ names
    else if n = ['.', '.'] then
      resolved needsLast fuel ((at_.reverse.dropWhile (· != '/')).drop 1).reverse names
    else
      let path := at_ ++ '/' :: n
      match ← statusOf path false with
      | .error cause =>
        if names.all (·.isEmpty) && !needsLast && cause = .notFound then return .ok path
        else return .error cause
      | .ok status =>
        if status.isLink then
          match ← Routine.ask (.readLink path) with
          | .error cause => return .error cause
          | .ok target =>
            let parts := target.splitBy (fun a b => a != '/' && b != '/') |>.filter (· != ['/'])
            resolved needsLast fuel (if target.head? = some '/' then [] else at_) (parts ++ names)
        else if !status.isDirectory && names.any (!·.isEmpty) then return .error .notDirectory
        else resolved needsLast fuel path names

/-- The absolute path without links. -/
def fullPath (needsLast : Bool) (path : Octets) : Routine (Except Cause Octets) := do
  if path.isEmpty then return .error .notFound
  let place : Octets ← Routine.ask .place
  let cut (s : Octets) : List Octets := (s.splitBy fun a b => a != '/' && b != '/').filter (· != ['/'])
  let start := if path.head? = some '/' then [] else cut place
  resolved needsLast (1000 + path.length) [] (start ++ cut path)

def readlink (argv _ : List Octets) : Routine Nat := do
  let (name, args) := called argv
  (known "femnqsvz" "" [("canonicalize", 'f'), ("canonicalize-existing", 'e'), ("no-newline", 'n')]).parse
    1 name args fun g => do
    if g.operands.isEmpty then return ← missing name "missing operand"
    let mut status := 0
    for path in g.operands do
      let result ← if g.has 'f' || g.has 'm' then fullPath false path
        else if g.has 'e' then fullPath true path
        else Routine.ask (.readLink path)
      match result with
      | .ok target => status := max status (← print name (if g.has 'n' then target else line target))
      | .error _ => status := 1
    return status

def realpath (argv _ : List Octets) : Routine Nat := do
  let (name, args) := called argv
  (known "emsqzLP" "" []).parse 1 name args fun g => do
    if g.operands.isEmpty then return ← missing name "missing operand"
    let mut status := 0
    for path in g.operands do
      match ← fullPath (g.has 'e') path with
      | .ok target => status := max status (← print name (line target))
      | .error cause =>
        complainOf name path cause
        status := 1
    return status

/-! ### Attributes -/

/-- Changes modes, also below directories of a depth. -/
def changeModes (name : Octets) (recursive : Bool) (mode : Octets) : Nat → Octets → Routine Bool
  | 0, _ => return false
  | depth + 1, path => do
    match ← statusOf path true with
    | .error cause =>
      complainOf name ("cannot access ".toList ++ inQuotes path) cause
      return false
    | .ok status =>
      match Shell.modeOf? status.mode mode with
      | none => return false
      | some new =>
        let _ ← edit (.setMode path.toBytes new)
        if recursive && status.isDirectory then
          let names ← Routine.ask (.list path)
          let good ← (names.toOption.getD []).mapM fun n =>
            changeModes name recursive mode depth (under path n)
          return good.all id
        else return true

def chmod (argv _ : List Octets) : Routine Nat := do
  let (name, args) := called argv
  let isMode (a : Octets) : Bool :=
    a.head? == some '-' && 1 < a.length && (a.drop 1).all fun c => "rwxXst,+-=ugoa".toList.contains c
  let args := if (args.head?).any isMode then ['-', '-'] :: args else args
  (known "Rcfv" "" [("recursive", 'R'), ("quiet", 'f'), ("verbose", 'v')]).parse 1 name args fun g => do
    match g.operands with
    | [] => missing name "missing operand"
    | [mode] => missing name ("missing operand after " ++ String.ofList (inQuotes mode))
    | mode :: paths =>
      if (Shell.modeOf? 0 mode).isNone then
        return ← missing name ("invalid mode: " ++ String.ofList (inQuotes mode))
      let good ← paths.mapM (changeModes name (g.has 'R') mode deepestTree)
      return if good.all id then 0 else 1

def truncate (argv _ : List Octets) : Routine Nat := do
  let (name, args) := called argv
  (known "co" "sr" [("no-create", 'c'), ("size", 's')]).parse 1 name args fun g => do
    let size := (g.last? 's').getD []
    let (sign, ds) := match size with
      | c :: ds => if c = '+' || c = '-' then (some c, ds) else (none, size)
      | [] => (none, [])
    match sized? ds with
    | none => missing name "you must specify either '--size' or '--reference'"
    | some n =>
      eachOperand name (fun p => "cannot open ".toList ++ inQuotes p ++ " for writing".toList)
        (fun path => do
          let old := (← Routine.readFile path).toOption.getD []
          let wanted := match sign with
            | some '+' => old.length + n
            | some _ => old.length - n
            | none => n
          let opening := { Opening.writing 0o666 with makes := if g.has 'c' then none else some 0o666 }
          match ← Routine.ask (.open path opening) with
          | .error cause => return if g.has 'c' && cause = .notFound then .ok () else .error cause
          | .ok d =>
            let content := old.take wanted ++ List.replicate (wanted - old.length) '\x00'
            let _ ← Routine.writeAll d content
            let _ ← Routine.ask (.close d)
            return .ok ()) g.operands

end DevServer.Program
