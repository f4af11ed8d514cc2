import DevServer.Failure.Cause
import DevServer.Path

/-!
# Nodes of a file system

A file system is a table of nodes, and a node is known by its number. Directories give names to
nodes; a node that has lost its last name stays in the table for those who still use it. The top
directory is node 0. What happens to the nodes is kept as news until somebody takes it.
-/

namespace DevServer

/-- What is behind a node that holds nothing itself. -/
inductive Device where
  /-- Nothing can be read, and what is written is lost. -/
  | nothing
  /-- Zeros can be read without an end. -/
  | zeros
  /-- Like `zeros`, but nothing can be written. -/
  | full
  /-- Whatever a descriptor of the process leads to that opens it. -/
  | opener (descriptor : Nat)
  deriving DecidableEq, Repr

inductive Content where
  /-- Names of other nodes; `parent` is the directory that it stands in. -/
  | directory (parent : Nat) (entries : List (Bytes × Nat))
  | file (bytes : Bytes)
  /-- Another path is followed in its place. -/
  | link (target : Bytes)
  | device (d : Device)
  | program (name : String)
  deriving DecidableEq, Repr

structure Node where
  content : Content
  mode : Nat
  changed : Nat
  deriving DecidableEq, Repr

inductive Happening where
  | made (directory : Nat) (name : Bytes) (isDirectory : Bool)
  | written (node : Nat)
  | removed (directory : Nat) (name : Bytes) (isDirectory : Bool)
  | lost (node : Nat)
  /-- A name has gone from one directory and come up in another, or in the same. -/
  | moved (node source : Nat) (old : Bytes) (target : Nat) (new : Bytes) (isDirectory : Bool)
  deriving DecidableEq, Repr

structure Files where
  nodes : Array Node
  /-- What has happened and nobody has been told yet, the last first. -/
  news : List Happening
  now : Nat
  deriving Repr

namespace Node

def isDirectory (n : Node) : Bool :=
  match n.content with
  | .directory _ _ => true
  | _ => false

def isLink (n : Node) : Bool :=
  match n.content with
  | .link _ => true
  | _ => false

def isRegular (n : Node) : Bool :=
  match n.content with
  | .file _ | .program _ => true
  | _ => false

def device? (n : Node) : Option Device :=
  match n.content with
  | .device d => some d
  | _ => none

def entries (n : Node) : List (Bytes × Nat) :=
  match n.content with
  | .directory _ entries => entries
  | _ => []

def bytes (n : Node) : Bytes :=
  match n.content with
  | .file bytes => bytes
  | _ => []

def isRunnable (n : Node) : Bool := n.isRegular && (n.mode &&& 0o111) != 0

end Node

namespace Files

open Failure

def top : Nat := 0

def empty : Files := ⟨#[⟨.directory top [], 0o755, 0⟩], [], 0⟩

def node? (t : Files) (n : Nat) : Option Node := t.nodes[n]?

def isDirectory (t : Files) (n : Nat) : Bool := (t.node? n).any Node.isDirectory

def modify (t : Files) (n : Nat) (f : Node → Node) : Files := { t with nodes := t.nodes.modify n f }

def tell (t : Files) (h : Happening) : Files := { t with news := h :: t.news }

/-- What has happened since the last time, in order. -/
def takeNews (t : Files) : List Happening × Files := (t.news.reverse, { t with news := [] })

def parentOf (t : Files) (n : Nat) : Nat :=
  match t.node? n with
  | some ⟨.directory parent _, _, _⟩ => parent
  | _ => top

def entry? (t : Files) (directory : Nat) (name : Bytes) : Option Nat :=
  (t.node? directory).bind fun d => d.entries.lookup name

/-- Gives a name in a directory to a node, or to none. -/
def setEntry (t : Files) (directory : Nat) (name : Bytes) (n : Option Nat) : Files :=
  t.modify directory fun d =>
    match d.content with
    | .directory parent entries =>
      let others := entries.filter (·.1 != name)
      { d with content := .directory parent (others ++ (n.map (name, ·)).toList), changed := t.now }
    | _ => d

def namesOf (t : Files) (n : Nat) : List (Nat × Bytes) :=
  (List.range t.nodes.size).flatMap fun d =>
    ((t.node? d).map Node.entries).getD [] |>.filterMap fun (name, m) =>
      if m = n then some (d, name) else none

def add (t : Files) (content : Content) (mode : Nat) : Nat × Files :=
  (t.nodes.size, { t with nodes := t.nodes.push ⟨content, mode, t.now⟩ })

/-- The absolute path of a directory; so many directories are above it at most. -/
def pathFrom (t : Files) : Nat → Nat → Bytes
  | 0, _ => []
  | height + 1, n =>
    if n = top then []
    else
      let parent := t.parentOf n
      let name := ((t.node? parent).bind fun d => d.entries.find? (·.2 = n)).map (·.1)
      t.pathFrom height parent ++ 0x2F :: name.getD []

def pathOf (t : Files) (n : Nat) : Bytes :=
  match t.pathFrom t.nodes.size n with
  | [] => [0x2F]
  | path => path

end Files

end DevServer
