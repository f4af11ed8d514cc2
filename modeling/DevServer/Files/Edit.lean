import DevServer.Files.Walk

/-!
# Changing files

What can be done to a file system: directories, files and links are made, moved and removed, and
files are written. Each change is told as news.
-/

namespace DevServer

/-- A change of the names or the attributes of nodes. -/
inductive FileEdit where
  | makeDirectory (path : Bytes) (mode : Nat)
  | removeDirectory (path : Bytes)
  | unlink (path : Bytes)
  | rename (source target : Bytes)
  | link (target path : Bytes)
  /-- Gives a node another name. -/
  | alias_ (source target : Bytes)
  | setMode (path : Bytes) (mode : Nat)
  /-- Sets the time of the last change, to now unless another one is given. -/
  | touch (path : Bytes) (time : Option Nat)
  deriving DecidableEq, Repr

structure Opening where
  reads : Bool
  writes : Bool
  /-- Whether a file that is not there is made, and then with which mode. -/
  makes : Option Nat
  /-- Whether it must not be there before. -/
  exclusive : Bool
  empties : Bool
  appends : Bool
  deriving DecidableEq, Repr

namespace Opening

def reading : Opening := ⟨true, false, none, false, false, false⟩

def writing (mode : Nat) : Opening := ⟨false, true, some mode, false, true, false⟩

def appending (mode : Nat) : Opening := ⟨false, true, some mode, false, false, true⟩

end Opening

namespace Files

open Failure

def setBytes (t : Files) (n : Nat) (bytes : Bytes) : Files :=
  (t.modify n fun node => { node with content := .file bytes, changed := t.now }).tell (.written n)

def addAt (t : Files) (directory : Nat) (name : Bytes) (content : Content) (mode : Nat) :
    Nat × Files :=
  let (n, t) := t.add content mode
  let isDirectory := match content with
    | .directory _ _ => true
    | _ => false
  (n, (t.setEntry directory name (some n)).tell (.made directory name isDirectory))

/-- Opens a file for its node; making it and emptying it are changes. -/
def openNode (t : Files) (cwd : Nat) (path : Bytes) (o : Opening) : Except Cause (Nat × Files) := do
  let place ← t.walk cwd (!o.exclusive) path
  match place.node, place.name, o.makes with
  | none, some name, some mode =>
    if place.asksDirectory then throw .isDirectory
    return t.addAt place.directory name (.file []) mode
  | none, _, _ => throw .notFound
  | some n, _, makes =>
    if makes.isSome && place.asksDirectory then throw .isDirectory
    if makes.isSome && o.exclusive then throw .alreadyThere
    match t.node? n with
    | some ⟨.directory _ _, _, _⟩ =>
      if o.writes || makes.isSome then throw .isDirectory else return (n, t)
    | some ⟨.file _, _, _⟩ =>
      if place.asksDirectory then throw .notDirectory
      return (n, if o.empties then t.setBytes n [] else t)
    | _ => if place.asksDirectory then throw .notDirectory else return (n, t)

/-- Writes bytes into a file from an offset on; a gap is filled with zeros. -/
def store (t : Files) (n offset : Nat) (bytes : Bytes) : Files :=
  match t.node? n with
  | some ⟨.file old, _, _⟩ =>
    if bytes.isEmpty then t
    else if offset = old.length then t.setBytes n (old ++ bytes)
    else t.setBytes n (old.take offset ++ List.replicate (offset - old.length) 0 ++ bytes ++
      old.drop (offset + bytes.length))
  | _ => t

/-- A name that a new node can have. -/
def freeName (t : Files) (cwd : Nat) (path : Bytes) (forDirectory : Bool) :
    Except Cause (Nat × Bytes) := do
  let place ← t.walk cwd false path
  match place.node, place.name with
  | some _, _ | _, none => throw .alreadyThere
  | none, some name =>
    if place.asksDirectory && !forDirectory then throw .notFound
    return (place.directory, name)

def dropName (t : Files) (directory : Nat) (name : Bytes) (n : Nat) : Files :=
  let t := (t.setEntry directory name none).tell (.removed directory name (t.isDirectory n))
  if (t.namesOf n).isEmpty then t.tell (.lost n) else t

def removeDirectory (t : Files) (cwd : Nat) (path : Bytes) : Except Cause Files := do
  let place ← t.walk cwd false path
  match place.node, place.name with
  | none, _ => throw .notFound
  | some _, none =>
    if isDots ((stepsOf path).getLastD []) then throw .notEmpty
    else if stepsOf path = [] then throw .busy
    else throw .invalid
  | some n, some name =>
    match t.node? n with
    | some ⟨.directory _ [], _, _⟩ => return t.dropName place.directory name n
    | some ⟨.directory _ _, _, _⟩ => throw .notEmpty
    | _ => throw .notDirectory

def unlink (t : Files) (cwd : Nat) (path : Bytes) : Except Cause Files := do
  let place ← t.walk cwd false path
  match place.node, place.name with
  | none, _ => throw .notFound
  | some _, none => throw .isDirectory
  | some n, some name =>
    if t.isDirectory n then throw .isDirectory
    if place.asksDirectory then throw .notDirectory
    return t.dropName place.directory name n

/-- Whether a directory is another one or stands below it; it is at most so deep. -/
def isWithin (t : Files) : Nat → Nat → Nat → Bool
  | 0, _, _ => false
  | height + 1, n, above => n == above || (n != top && t.isWithin height (t.parentOf n) above)

/-- Moves a name to another place. What stood there before must be of the same sort, and a directory
must be empty. -/
def rename (t : Files) (cwd : Nat) (source target : Bytes) : Except Cause Files := do
  let old ← t.walk cwd false source
  let new ← t.walk cwd false target
  match old.name, new.name with
  | some oldName, some newName =>
    match old.node with
    | none => throw .notFound
    | some n =>
      let isDirectory := t.isDirectory n
      if !isDirectory && (old.asksDirectory || new.asksDirectory) then throw .notDirectory
      if isDirectory && t.isWithin t.nodes.size new.directory n then throw .invalid
      if new.node = some n then return t
      match new.node with
      | none => pure ()
      | some m =>
        if t.isDirectory m then
          if !isDirectory then throw .isDirectory
          if (((t.node? m).map Node.entries).getD []) ≠ [] then throw .notEmpty
        else if isDirectory then throw .notDirectory
      let moved := (t.setEntry old.directory oldName none).setEntry new.directory newName (some n)
      let moved := moved.modify n fun node =>
        match node.content with
        | .directory _ entries => { node with content := .directory new.directory entries }
        | _ => node
      let moved := moved.tell (.moved n old.directory oldName new.directory newName isDirectory)
      match new.node with
      | some m => return if (moved.namesOf m).isEmpty then moved.tell (.lost m) else moved
      | none => return moved
  | _, _ => throw .busy

def edit (t : Files) (cwd : Nat) : FileEdit → Except Cause Files
  | .makeDirectory path mode => do
    let (directory, name) ← t.freeName cwd path true
    return (t.addAt directory name (.directory directory []) mode).2
  | .removeDirectory path => t.removeDirectory cwd path
  | .unlink path => t.unlink cwd path
  | .rename source target => t.rename cwd source target
  | .link target path => do
    if target.isEmpty then throw .notFound
    let (directory, name) ← t.freeName cwd path false
    return (t.addAt directory name (.link target) 0o777).2
  | .alias_ source target => do
    let n ← t.find cwd source false
    if t.isDirectory n then throw .notAllowed
    let (directory, name) ← t.freeName cwd target false
    return (t.setEntry directory name (some n)).tell (.made directory name false)
  | .setMode path mode => do
    let n ← t.find cwd path true
    return t.modify n fun node => { node with mode }
  | .touch path time => do
    let n ← t.find cwd path true
    return t.modify n fun node => { node with changed := time.getD t.now }

/-- Makes a directory and those above it, from the deepest that is there; so many are missing at
most. -/
def makeDirectoriesFrom (t : Files) (cwd : Nat) (mode : Nat) : Nat → Path → Except Cause Files
  | 0, _ => .error .notFound
  | height + 1, p =>
    if p.components = [] then .ok t
    else
      let made (t : Files) : Except Cause Files := t.edit cwd (.makeDirectory p.bytes mode)
      let isThere (t : Files) : Bool := ((t.find cwd p.bytes true).toOption).any t.isDirectory
      match made t with
      | .ok t => .ok t
      | .error cause =>
        if cause = .notFound then
          match p.parent? with
          | none => .error (.other "failed to create whole tree")
          | some above => do
            let t ← t.makeDirectoriesFrom cwd mode height above
            match made t with
            | .ok t => .ok t
            | .error cause => if isThere t then .ok t else .error cause
        else if isThere t then .ok t
        else .error cause

/-- The mode of new directories, and that of new files. -/
def directoryMode : Nat := 0o755

def fileMode : Nat := 0o644

/-- Makes a directory and those above it that are not there. -/
def makeDirectories (t : Files) (cwd : Nat) (p : Path) : Except Cause Files :=
  t.makeDirectoriesFrom cwd directoryMode (p.components.length + 1) p

def write (t : Files) (cwd : Nat) (p : Path) (content : Bytes) : Except Cause Files := do
  let (n, t) ← t.openNode cwd p.bytes (.writing fileMode)
  return t.store n 0 content

/-- Writes a whole file, in a directory that is made if it is not there. -/
def put (t : Files) (cwd : Nat) (p : Path) (content : Bytes) : Except Cause Files := do
  let t ← match p.parent? with
    | some above => t.makeDirectories cwd above
    | none => pure t
  t.write cwd p content

/-- Opens a file to append to it; it is made if it is not there. -/
def openToAppend (t : Files) (cwd : Nat) (p : Path) : Except Cause Files := do
  return (← t.openNode cwd p.bytes (.appending fileMode)).2

/-- Removes a node and all below it; it is at most so high. -/
def removeAllFrom (t : Files) (cwd : Nat) : Nat → Path → Except Cause Files
  | 0, _ => .error .notFound
  | height + 1, p => do
    let n ← t.find cwd p.bytes false
    if t.isDirectory n then
      let names := (((t.node? n).map Node.entries).getD []).map (·.1)
      let t ← names.foldlM (fun t name => t.removeAllFrom cwd height (p.join ⟨name⟩)) t
      t.removeDirectory cwd p.bytes
    else t.unlink cwd p.bytes

def removeAll (t : Files) (cwd : Nat) (p : Path) : Except Cause Files :=
  t.removeAllFrom cwd (t.nodes.size + 1) p

end Files

end DevServer
