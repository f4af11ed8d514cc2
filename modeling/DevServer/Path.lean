import DevServer.Text.Utf8

/-!
# Paths

A path is any sequence of bytes; `/` separates. What a path names is given by its components:
empty parts and `.` parts are not among them, except a `.` that begins a relative path. Two
spellings are the same path when their components agree (`Path.same`), and paths are ordered by
components, these by bytes. The file name is the last component if that is an ordinary name, and
the extension is what follows the file name's last dot, unless that dot begins the name.
-/

namespace DevServer

structure Path where
  bytes : Bytes
  deriving DecidableEq, Repr, Inhabited

namespace Path

/-- One component. Constructors are in ascending order. -/
inductive Component where
  | root
  | current
  | parent
  | name (bytes : Bytes)
  deriving DecidableEq, Repr

private def slash : UInt8 := 0x2F

private def dot : UInt8 := 0x2E

def ofString (s : String) : Path := ⟨Text.encode s⟩

instance : Coe String Path := ⟨ofString⟩

def isAbsolute (p : Path) : Bool := p.bytes.head? == some slash

/-- The component a part between slashes stands for, where it is not the first of a relative path. -/
def Component.ofPart? (part : Bytes) : Option Component :=
  if part = [] ∨ part = [dot] then none
  else if part = [dot, dot] then some .parent
  else some (.name part)

/-- The bytes between slashes. -/
def parts : Bytes → List Bytes
  | [] => [[]]
  | b :: bs =>
    if b = slash then [] :: parts bs
    else match parts bs with
      | part :: rest => (b :: part) :: rest
      | [] => [[b]]

def components (p : Path) : List Component :=
  if p.isAbsolute then .root :: (parts p.bytes).filterMap Component.ofPart?
  else match parts p.bytes with
    | first :: rest =>
      (if first = [dot] then [.current] else (Component.ofPart? first).toList) ++
        rest.filterMap Component.ofPart?
    | [] => []

/-- Whether two spellings name the same path. -/
def same (p q : Path) : Bool := p.components == q.components

/-- Order of byte strings. -/
def compareBytes : Bytes → Bytes → Ordering
  | [], [] => .eq
  | [], _ :: _ => .lt
  | _ :: _, [] => .gt
  | a :: as, b :: bs => (compare a.toNat b.toNat).then (compareBytes as bs)

def Component.rank : Component → Nat
  | .root => 0
  | .current => 1
  | .parent => 2
  | .name _ => 3

def Component.compare : Component → Component → Ordering
  | .name a, .name b => compareBytes a b
  | a, b => Ord.compare a.rank b.rank

def compareComponents : List Component → List Component → Ordering
  | [], [] => .eq
  | [], _ :: _ => .lt
  | _ :: _, [] => .gt
  | a :: as, b :: bs => (a.compare b).then (compareComponents as bs)

/-- Order by components. -/
def compare (p q : Path) : Ordering := compareComponents p.components q.components

def fileName? (p : Path) : Option Bytes :=
  match p.components.getLast? with
  | some (.name n) => some n
  | _ => none

/-- What follows the last dot of a file name, unless that dot is its first byte. -/
def extensionOf (name : Bytes) : Option Bytes :=
  let after := (name.reverse.takeWhile (· != dot)).reverse
  let before := name.length - after.length
  if before ≤ 1 then none else some after

def extension? (p : Path) : Option Bytes := p.fileName?.bind extensionOf

/-- `q` seen from `p`: an absolute `q` stands for itself, and otherwise one slash divides the two. -/
def join (p q : Path) : Path :=
  if q.isAbsolute then q
  else if p.bytes = [] ∨ p.bytes.getLast? = some slash then ⟨p.bytes ++ q.bytes⟩
  else ⟨p.bytes ++ slash :: q.bytes⟩

/-- Whether what stands between two slashes names nothing. -/
def isSilent (part : Bytes) : Bool := part == [] || part == [dot]

/-- The slash or the dot that a path begins with, where it is a component. -/
def lead (p : Path) : Bytes :=
  match p.components.head? with
  | some .root => [slash]
  | some .current => [dot]
  | _ => []

/-- What stands between slashes behind the lead. -/
def body (p : Path) : List Bytes := parts (p.bytes.drop p.lead.length)

def trimEnd (parts : List Bytes) : List Bytes := (parts.reverse.dropWhile isSilent).reverse

/-- The path without its last component, unless it has none or only the top. -/
def parent? (p : Path) : Option Path :=
  match p.components.getLast? with
  | none | some .root => none
  | some .current => some ⟨[]⟩
  | some _ => some ⟨p.lead ++ [slash].intercalate (trimEnd (trimEnd p.body).dropLast)⟩

/-- The parts behind so many that name something. -/
def dropNames : Nat → List Bytes → List Bytes
  | _, [] => []
  | 0, parts => parts
  | n + 1, part :: parts => if isSilent part then dropNames (n + 1) parts else dropNames n parts

/-- A path as it is seen from a directory that it lies below; its spelling is kept. -/
def within? (p directory : Path) : Option Path :=
  if directory.components.isPrefixOf p.components then
    let names := directory.components.length - directory.lead.length
    some ⟨[slash].intercalate (trimEnd ((dropNames names p.body).dropWhile isSilent))⟩
  else none

/-- The path as readable text. -/
def display (p : Path) : String := Text.decodeLossy p.bytes

/-- The path as text, if it is UTF-8. -/
def text? (p : Path) : Option String := Text.decode? p.bytes

theorem same_refl (p : Path) : p.same p = true := by simp [same]

theorem same_comm (p q : Path) : p.same q = q.same p := by
  simp only [same]
  exact BEq.comm

theorem join_of_isAbsolute {p q : Path} (h : q.isAbsolute = true) : p.join q = q := by
  simp [join, h]

end Path

end DevServer
