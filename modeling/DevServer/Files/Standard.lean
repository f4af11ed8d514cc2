import DevServer.Files.Edit
import DevServer.Text.Utf8

/-!
# The file system of a machine

The directories that every machine has, with its programs and its devices.
-/

namespace DevServer.Files

def plant (t : Files) (directory : Nat) (name : String) (content : Content) (mode : Nat) : Nat × Files :=
  let (n, t) := t.add content mode
  (n, t.setEntry directory (Text.encode name) (some n))

/-- New directories in a directory, with the numbers of these. -/
def plantDirectories (t : Files) (directory : Nat) (names : List String) : List (String × Nat) × Files :=
  names.foldl (fun (found, t) name =>
    let (n, t) := t.plant directory name (.directory directory []) directoryMode
    (found ++ [(name, n)], t)) ([], t)

/-- New nodes in a directory, which has no names yet. -/
def plantAll (t : Files) (directory : Nat) (mode : Nat) (contents : List (String × Content)) : Files :=
  let first := t.nodes.size
  let nodes : List Node := contents.map fun (_, c) => ⟨c, mode, t.now⟩
  let t := { t with nodes := t.nodes ++ nodes.toArray }
  let entries := (contents.zipIdx first).map fun ((name, _), n) => (Text.encode name, n)
  t.modify directory fun d => { d with content := .directory (t.parentOf directory) entries }

def topDirectories : List String :=
  ["boot", "dev", "etc", "home", "media", "mnt", "opt", "proc", "root", "run", "srv", "sys", "tmp", "usr",
    "var"]

def devices : List (String × Content) :=
  [("null", .device .nothing), ("zero", .device .zeros), ("full", .device .full),
    ("random", .device .zeros), ("urandom", .device .zeros), ("stdin", .device (.opener 0)),
    ("stdout", .device (.opener 1)), ("stderr", .device (.opener 2))]

def users : String := "root:x:0:0:root:/root:/bin/bash\n"

/-- In a directory that all share, each may remove what is theirs. -/
def sharedMode : Nat := 0o1777

def machine (programs : List String) : Files :=
  let (found, t) := empty.plantDirectories top topDirectories
  let directory (name : String) : Nat := (found.lookup name).getD top
  let (below, t) := t.plantDirectories (directory "usr") ["bin", "include", "lib", "local", "sbin", "share"]
  let inUsr (name : String) : Nat := (below.lookup name).getD top
  let (_, t) := t.plantDirectories (inUsr "local") ["bin", "etc", "include", "lib", "sbin", "share"]
  let (inVar, t) := t.plantDirectories (directory "var") ["cache", "lib", "log", "run", "spool", "tmp"]
  let t := [directory "tmp", (inVar.lookup "tmp").getD top].foldl (fun t n =>
    t.modify n fun d => { d with mode := sharedMode }) t
  let t := ["bin", "lib", "sbin"].foldl (fun t name =>
    (t.plant top name (.link (Text.encode ("usr/" ++ name))) 0o777).2) t
  let t := t.plantAll (inUsr "bin") 0o755 (programs.map fun name => (name, .program name))
  let t := t.plantAll (directory "dev") 0o666 devices
  let t := t.plantAll (directory "etc") 0o644 [("passwd", .file (Text.encode users)),
    ("hostname", .file (Text.encode "localhost\n")),
    ("hosts", .file (Text.encode "127.0.0.1\tlocalhost\n"))]
  let (descriptors, t) := t.plant (directory "dev") "fd" (.directory (directory "dev") []) directoryMode
  t.plantAll descriptors 0o700 ((List.range 10).map fun n => (toString n, .device (.opener n)))

end DevServer.Files
