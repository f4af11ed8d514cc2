import DevServer.Change.Basic
import DevServer.Files.Walk

/-!
# Watching files

A watcher marks nodes, and hears what happens to these and to the names in them. It reports paths as
the marked nodes are spelled: of several spellings of one node, the last. Directories that are put
into a watched one are marked too, once everything that has happened at the same time has been
reported; so what was put into them at that time is not.
-/

namespace DevServer

structure Watch where
  path : Path
  node : Nat
  recursive : Bool
  /-- Whether it is reported when the node itself is moved or lost. -/
  ofItself : Bool
  deriving Repr

/-- A node that reports what happens, spelled as a path. -/
structure Mark where
  node : Nat
  path : Path
  ofItself : Bool
  deriving Repr

structure Watcher where
  watches : List Watch
  marks : List Mark
  deriving Repr

namespace Watcher

def empty : Watcher := ⟨[], []⟩

def mark? (w : Watcher) (node : Nat) : Option Mark := w.marks.find? (·.node = node)

def watch? (w : Watcher) (path : Path) : Option Watch := w.watches.find? (·.path.same path)

def isWithin (directory path : Path) : Bool := directory.components.isPrefixOf path.components

/-! ### Adding and removing -/

/-- Watches one path, which leads to a node. -/
def addOne (w : Watcher) (path : Path) (node : Nat) (recursive ofItself : Bool) : Watcher :=
  let before := w.watch? path
  let ofItself := ofItself || before.any (·.ofItself)
  let marked := ofItself || (before.isSome && (w.mark? node).any (·.ofItself))
  ⟨w.watches.filter (!·.path.same path) ++ [⟨(before.map (·.path)).getD path, node, recursive, ofItself⟩],
    w.marks.filter (·.node != node) ++ [⟨node, path, marked⟩]⟩

/-- A directory and those below it, with their paths. Links to directories are followed, but not to one
in which they stand. -/
def directories (t : Files) : Nat → List Nat → Path → Nat → List (Path × Nat)
  | 0, _, _, _ => []
  | height + 1, above, path, node =>
    let above := node :: above
    (path, node) :: (((t.node? node).map Node.entries).getD []).flatMap fun (name, _) =>
      match t.find node name true with
      | .ok n =>
        if t.isDirectory n && !above.contains n then directories t height above (path.join ⟨name⟩) n
        else []
      | .error _ => []

/-- Watches a path, if it leads anywhere, and what is below it. -/
def add (w : Watcher) (t : Files) (cwd : Nat) (path : Path) (ofItself : Bool) : Watcher :=
  match t.find cwd path.bytes true with
  | .error _ => w
  | .ok node =>
    if t.isDirectory node then
      (directories t t.nodes.size [] path node).foldl
        (fun w (p, n) => w.addOne p n true (ofItself && n = node)) w
    else w.addOne path node false true

def new (t : Files) (cwd : Nat) (roots : List Path) : Watcher :=
  roots.foldl (fun w root => w.add t cwd root true) empty

/-- Watches a path no more, and nothing that is marked below it. -/
def forget (w : Watcher) (path : Path) : Watcher :=
  match w.watch? path with
  | none => w
  | some v =>
    let w := { w with watches := w.watches.filter (!·.path.same path) }
    if (w.mark? v.node).isNone then w
    else
      let below := (w.marks.filter fun m => m.node != v.node && isWithin path m.path).map (·.path)
      ⟨w.watches.filter fun v => !below.any v.path.same,
        w.marks.filter fun m => m.node != v.node && !isWithin path m.path⟩

/-! ### Hearing -/

def pathIn? (w : Watcher) (directory : Nat) (name : Bytes) : Option Path :=
  (w.mark? directory).map fun m => m.path.join ⟨name⟩

/-- The path of a marked node that reports what happens to itself. -/
def own? (w : Watcher) (node : Nat) : Option Path :=
  ((w.mark? node).filter (·.ofItself)).map (·.path)

def report (w : Watcher) (t : Files) : Happening → List FileEvent
  | .made directory name _ => (w.pathIn? directory name).toList.map fun p => ⟨.create, [p]⟩
  | .written node =>
    let names := (t.namesOf node).take 1
    let paths := names.filterMap (fun (directory, name) => w.pathIn? directory name) ++
      ((w.mark? node).map (·.path)).toList
    paths.map fun p => ⟨.modify .data, [p]⟩
  | .removed directory name _ => (w.pathIn? directory name).toList.map fun p => ⟨.remove, [p]⟩
  | .lost node => (w.own? node).toList.map fun p => ⟨.remove, [p]⟩
  | .moved node source old target new _ =>
    let before := w.pathIn? source old
    let after := w.pathIn? target new
    let both := match before, after with
      | some p, some q => [[p, q]]
      | _, _ => []
    (before.toList.map ([·]) ++ after.toList.map ([·]) ++ both ++ (w.own? node).toList.map ([·])).map
      fun paths => ⟨.modify .name, paths⟩

/-- Paths that lead no longer to what was watched. -/
def gone? (w : Watcher) : Happening → Option Path
  | .removed directory name _ | .moved _ directory name _ _ _ => w.pathIn? directory name
  | .lost node => w.own? node
  | .made _ _ _ | .written _ => none

/-- A directory that has come into a watched one. -/
def come? (w : Watcher) : Happening → Option Path
  | .made directory name true | .moved _ _ _ directory name true =>
    if (w.mark? directory).any fun m => (w.watch? m.path).any (·.recursive) then w.pathIn? directory name
    else none
  | _ => none

/-- Hears everything that has happened at one time: what is reported of it, and the watcher after it. -/
def hear (w : Watcher) (t : Files) (cwd : Nat) (news : List Happening) : List FileEvent × Watcher :=
  let isLost (node : Nat) : Bool := news.any fun h => h == .lost node
  let left := { w with marks := w.marks.filter (!isLost ·.node) }
  let left := (news.filterMap w.gone?).foldl forget left
  (news.flatMap (w.report t), (news.filterMap w.come?).foldl (fun w p => w.add t cwd p false) left)

end Watcher

end DevServer
