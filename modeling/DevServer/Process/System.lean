import DevServer.Process.Basic

/-!
# Systems of processes

A system has files, pipes and processes, on a clock in microseconds. Descriptors lead to what was
opened; processes that were forked share it. Each process has a time from which on it can go on, and
the one with the least goes first; a process that waits for something stays where it is until that
is there. A process that has ended is kept until its parent has asked for it.
-/

namespace DevServer.Process

open Failure (Cause)
open Text (Octets)

inductive Opened where
  | node (node offset : Nat) (opening : Opening)
  | source (pipe : Nat)
  | sink (pipe : Nat)
  deriving DecidableEq, Repr

/-- What has been written to a pipe and not been read. -/
structure Pipe where
  pieces : List Octets
  size : Nat
  deriving Repr

structure Running where
  number : Nat
  parent : Nat
  /-- Signals can be sent to all processes of a group. -/
  group : Nat
  rest : Process
  due : Nat
  /-- What descriptors lead to, by its place in the table. -/
  descriptors : List (Nat × Nat)
  cwd : Nat
  mask : Nat
  /-- Signals that are not handled as usual. -/
  handlings : List (Nat × Handling)
  /-- Caught signals that have come, in order. -/
  arrived : List Nat
  /-- Signals that have come while it was stopped. -/
  held : List Nat
  stopped : Bool
  ending : Option Ending

structure System where
  now : Nat
  files : Files
  opened : Array Opened
  pipes : Array Pipe
  running : List Running
  next : Nat
  /-- What is open outside of all processes. -/
  outside : List Nat

/-- What the programs of a system do with their arguments and the environment. -/
abbrev Programs := String → List Octets → List Octets → Process

namespace Running

def isAlive (p : Running) : Bool := p.ending.isNone

def handlingOf (p : Running) (signal : Nat) : Handling := (p.handlings.lookup signal).getD .usual

def setHandling (p : Running) (signal : Nat) (h : Handling) : Running :=
  let others := p.handlings.filter (·.1 != signal)
  { p with handlings := if h = .usual then others else (signal, h) :: others }

/-- The least descriptor from a number on that is free; there are no more than this list has. -/
def freeFrom (p : Running) (least : Nat) : Nat :=
  ((List.range (p.descriptors.length + 1)).map (· + least)).find?
    (fun n => (p.descriptors.lookup n).isNone) |>.getD least

def setDescriptor (p : Running) (descriptor : Nat) (place : Option Nat) : Running :=
  { p with descriptors :=
      (place.map (descriptor, ·)).toList ++ p.descriptors.filter (·.1 != descriptor) }

/-- Descriptors from this one on are a program's own: what it executes does not have them. -/
def ownDescriptors : Nat := 10

end Running

namespace System

def new (files : Files) : System := ⟨0, files, #[], #[], [], 4242, []⟩

def process? (s : System) (number : Nat) : Option Running := s.running.find? (·.number == number)

def modify (s : System) (number : Nat) (f : Running → Running) : System :=
  { s with running := s.running.map fun p => if p.number == number then f p else p }

/-- Lets a process go on with something at a time. -/
def resume (s : System) (number : Nat) (rest : Process) (due : Nat) : System :=
  s.modify number fun p => { p with rest, due }

/-! ### Endings and signals -/

/-- The parent of processes whose own parent has ended; it asks for nothing. -/
def foster : Nat := 1

/-- The parent of processes that are launched from outside. -/
def launcher : Nat := 100

/-- A process has ended: its descriptors are closed and its parent is told. -/
def finish (s : System) (number : Nat) (ending : Ending) : System :=
  let told := s.running.map fun p =>
    if p.number == number then
      { p with ending := some ending, descriptors := [], rest := .exit 0, stopped := false }
    else if (s.process? number).any (·.parent == p.number) && p.handlingOf child == .caught then
      { p with arrived := p.arrived ++ [child] }
    else if p.parent == number then { p with parent := foster }
    else p
  { s with running := told.filter fun p => p.isAlive || p.parent != foster }

def wakingTime : Nat := 100

/-- What a signal does to a process that is not stopped. -/
def deliver (s : System) (number signal : Nat) : System :=
  match s.process? number with
  | none => s
  | some p =>
    match p.handlingOf signal with
    | .ignored => s
    | .caught =>
      s.modify number fun p => { p with
        arrived := p.arrived ++ [signal], due := max p.due (s.now + wakingTime) }
    | .usual =>
      if isHarmless signal then s
      else if isStopping signal then s.modify number fun p => { p with stopped := true }
      else s.finish number (.signalled signal)

/-- Sends a signal to a process. A stopped one takes notice when it goes on, unless it is killed. -/
def send (s : System) (number signal : Nat) : System :=
  match s.process? number with
  | none => s
  | some p =>
    if !p.isAlive || signal = 0 then s
    else if signal = kill then s.finish number (.signalled kill)
    else if signal = stop then s.modify number fun p => { p with stopped := true }
    else if signal = continue_ then
      let s := s.modify number fun p =>
        { p with stopped := false, held := [], due := max p.due s.now }
      p.held.foldl (fun s held => s.deliver number held) (s.deliver number continue_)
    else if p.stopped then
      if p.handlingOf signal == .ignored then s
      else s.modify number fun p => { p with held := p.held ++ [signal] }
    else s.deliver number signal

/-! ### Descriptors -/

def place? (p : Running) (descriptor : Nat) : Option Nat := p.descriptors.lookup descriptor

def openedAt? (s : System) (p : Running) (descriptor : Nat) : Option Opened :=
  (place? p descriptor).bind fun place => s.opened[place]?

/-- Whether something that is open leads to what is asked for. -/
def isOpen (s : System) (o : Opened) : Bool :=
  let leads (place : Nat) : Bool := s.opened[place]? == some o
  s.outside.any leads || s.running.any fun p => p.descriptors.any fun (_, place) => leads place

def addOpened (s : System) (o : Opened) : Nat × System :=
  (s.opened.size, { s with opened := s.opened.push o })

def addPipe (s : System) : Nat × System :=
  (s.pipes.size, { s with pipes := s.pipes.push ⟨[], 0⟩ })

def pipeSize : Nat := 65536

/-- So many bytes are written to a pipe together or not at all. -/
def atomicSize : Nat := 4096

/-- How many of some bytes a pipe takes now. -/
def room (q : Pipe) (size : Nat) : Nat :=
  let free := pipeSize - q.size
  if size ≤ atomicSize then (if size ≤ free then size else 0) else min size free

/-- Bytes that are taken out of a pipe, at most so many. -/
def takePieces : Nat → List Octets → Octets × List Octets
  | _, [] => ([], [])
  | limit, piece :: pieces =>
    if piece.length ≤ limit then
      let (more, rest) := takePieces (limit - piece.length) pieces
      (piece ++ more, rest)
    else (piece.take limit, piece.drop limit :: pieces)

/-- Reads what a pipe holds, if there is anything or nobody can write any more. -/
def readPipe (s : System) (pipe limit : Nat) : Option (Octets × System) :=
  match s.pipes[pipe]? with
  | none => some ([], s)
  | some q =>
    if q.size = 0 then if s.isOpen (.sink pipe) then none else some ([], s)
    else
      let (bytes, pieces) := takePieces limit q.pieces
      some (bytes, { s with pipes := s.pipes.set! pipe ⟨pieces, q.size - bytes.length⟩ })

/-- Writes to a pipe, if it has room. Where nobody can read, the writer gets a signal. -/
def writePipe (s : System) (p : Running) (pipe : Nat) (bytes : Octets) :
    Option (Except Cause Nat × System) :=
  if !s.isOpen (.source pipe) then some (.error .brokenPipe, s.send p.number brokenPipe)
  else match s.pipes[pipe]? with
    | none => some (.error .badDescriptor, s)
    | some q =>
      let n := room q bytes.length
      if n = 0 && !bytes.isEmpty then none
      else
        let q := ⟨q.pieces ++ [bytes.take n], q.size + n⟩
        some (.ok n, { s with pipes := s.pipes.set! pipe q })

/-- The time of day when the clock begins, in microseconds. -/
def clockStart : Nat := 1767225600000000

/-- The files at the time of the clock. -/
def filesNow (s : System) : Files := { s.files with now := clockStart + s.now }

/-- Reads from a file, whose offset moves on. -/
def readNode (s : System) (place node offset : Nat) (o : Opening) (limit : Nat) :
    Except Cause Octets × System :=
  if !o.reads then (.error .badDescriptor, s)
  else if s.files.isDirectory node then (.error .isDirectory, s)
  else if (s.files.node? node).any fun n => n.device? == some .zeros || n.device? == some .full then
    (.ok (List.replicate limit '\x00'), s)
  else
    let all := ((s.files.node? node).map Node.bytes).getD []
    let bytes := (all.drop offset).take limit
    (.ok (Octets.ofBytes bytes),
      { s with opened := s.opened.set! place (.node node (offset + bytes.length) o) })

def writeNode (s : System) (place node offset : Nat) (o : Opening) (bytes : Octets) :
    Except Cause Nat × System :=
  if !o.writes then (.error .badDescriptor, s)
  else if (s.files.node? node).any fun n => n.device? == some .full then (.error .noSpace, s)
  else
    let size := ((s.files.node? node).map fun n => n.bytes.length).getD 0
    let start := if o.appends then size else offset
    let files := s.filesNow.store node start bytes.toBytes
    (.ok bytes.length,
      { s with
        files
        opened := s.opened.set! place (.node node (start + bytes.length) o) })

/-! ### Answers -/

def statusOf (t : Files) (n : Nat) : Except Cause Status :=
  match t.node? n with
  | none => .error .notFound
  | some node =>
    .ok ⟨n, node.mode, node.changed, node.bytes.length, node.isDirectory, node.isRegular, node.isLink⟩

/-- Whether a child is meant by a request. -/
def isAwaited (p : Running) (child : Option Nat) (q : Running) : Bool :=
  q.parent == p.number && (child.isNone || child == some q.number)

/-- A child that has ended is answered for once. -/
def await (s : System) (p : Running) (child : Option Nat) (waiting : Waiting) :
    Option (Option (Nat × Ending) × System) :=
  let meant := s.running.filter (isAwaited p child)
  match meant.findSome? fun q => q.ending.map (q.number, ·) with
  | some (number, ending) =>
    some (some (number, ending),
      { s with running := s.running.filter (·.number != number) })
  | none =>
    let interrupted := waiting == .untilSignal && !p.arrived.isEmpty
    if meant.isEmpty || waiting == .never || interrupted then some (none, s) else none

/-- Opens a file, at the least descriptor that is free. -/
def openFile (s : System) (p : Running) (path : Octets) (o : Opening) : Except Cause Nat × System :=
  let masked := { o with makes := o.makes.map fun mode => mode &&& (0o777 ^^^ p.mask) }
  let descriptor := p.freeFrom 0
  match s.filesNow.openNode p.cwd path.toBytes masked with
  | .error cause => (.error cause, s)
  | .ok (node, files) =>
    match (files.node? node).bind Node.device? with
    | some (.opener n) =>
      match place? p n with
      | none => (.error .notFound, s)
      | some place => (.ok descriptor, s.modify p.number (·.setDescriptor descriptor (some place)))
    | _ =>
      let (place, s) := { s with files }.addOpened (.node node 0 o)
      (.ok descriptor, s.modify p.number (·.setDescriptor descriptor (some place)))

/-- A mode without what the mask of a process takes away. -/
def maskedEdit (p : Running) : FileEdit → FileEdit
  | .makeDirectory path mode => .makeDirectory path (mode &&& (0o777 ^^^ p.mask))
  | e => e

/-- The answer to a request of a process, unless it has to wait. -/
def answer (s : System) (p : Running) : (r : Request) → Option (r.Answer × System)
  | .pause _ => some ((), s)
  | .ownNumber => some (p.number, s)
  | .parentNumber => some (p.parent, s)
  | .await child waiting => s.await p child waiting
  | .leadGroup => some ((), s.modify p.number fun p => { p with group := p.number })
  | .signal target number =>
    if 0 < target then
      if (s.process? target.toNat).isSome then some (.ok (), s.send target.toNat number)
      else some (.error .noProcess, s)
    else
      let group := if target = 0 then p.group else target.natAbs
      let members := (s.running.filter (·.group == group)).map (·.number)
      if members.isEmpty then some (.error .noProcess, s)
      else some (.ok (), members.foldl (fun s n => s.send n number) s)
  | .handle number h => some ((), s.modify p.number (·.setHandling number h))
  | .handling number => some (p.handlingOf number, s)
  | .arrived => some (p.arrived, s.modify p.number fun p => { p with arrived := [] })
  | .open path o => some (s.openFile p path o)
  | .close descriptor =>
    match place? p descriptor with
    | some _ => some (.ok (), s.modify p.number (·.setDescriptor descriptor none))
    | none => some (.error .badDescriptor, s)
  | .duplicate source target =>
    match place? p source with
    | some place => some (.ok (), s.modify p.number (·.setDescriptor target (some place)))
    | none => some (.error .badDescriptor, s)
  | .save descriptor =>
    match place? p descriptor with
    | some place =>
      let saved := p.freeFrom Running.ownDescriptors
      some (.ok saved, s.modify p.number (·.setDescriptor saved (some place)))
    | none => some (.error .badDescriptor, s)
  | .pipe =>
    let (pipe, s) := s.addPipe
    let (source, s) := s.addOpened (.source pipe)
    let (sink, s) := s.addOpened (.sink pipe)
    let first := p.freeFrom 0
    let q := p.setDescriptor first (some source)
    let second := q.freeFrom 0
    some ((first, second), s.modify p.number fun p =>
      (p.setDescriptor first (some source)).setDescriptor second (some sink))
  | .read descriptor limit =>
    match place? p descriptor, s.openedAt? p descriptor with
    | some place, some (.node node offset o) => some (s.readNode place node offset o limit)
    | _, some (.source pipe) => (s.readPipe pipe limit).map fun (bytes, s) => (.ok bytes, s)
    | _, _ => some (.error .badDescriptor, s)
  | .write descriptor bytes =>
    match place? p descriptor, s.openedAt? p descriptor with
    | some place, some (.node node offset o) => some (s.writeNode place node offset o bytes)
    | _, some (.sink pipe) => s.writePipe p pipe bytes
    | _, _ => some (.error .badDescriptor, s)
  | .status path through => some ((s.files.find p.cwd path.toBytes through).bind (statusOf s.files), s)
  | .list path => some ((s.files.list p.cwd path.toBytes).map (·.map Octets.ofBytes), s)
  | .readLink path => some ((s.files.readLink p.cwd path.toBytes).map Octets.ofBytes, s)
  | .edit e =>
    match s.filesNow.edit p.cwd (maskedEdit p e) with
    | .error cause => some (.error cause, s)
    | .ok files => some (.ok (), { s with files })
  | .enter path =>
    match s.files.find p.cwd path.toBytes true with
    | .error cause => some (.error cause, s)
    | .ok n =>
      if s.files.isDirectory n then some (.ok (), s.modify p.number fun p => { p with cwd := n })
      else some (.error .notDirectory, s)
  | .place => some (Octets.ofBytes (s.files.pathOf p.cwd), s)
  | .mask new => some (p.mask, s.modify p.number fun p => { p with mask := new.getD p.mask })

/-! ### Programs -/

/-- The first line of a script that names its interpreter: the interpreter and its argument. -/
def interpreter? (content : Octets) : Option (Octets × Option Octets) :=
  match content with
  | '#' :: '!' :: rest =>
    let blank (c : Char) : Bool := c == ' ' || c == '\t'
    let line := ((rest.takeWhile (· != '\n')).dropWhile blank).reverse.dropWhile blank |>.reverse
    let name := line.takeWhile (!blank ·)
    let argument := (line.drop name.length).dropWhile blank
    some (name, if argument.isEmpty then none else some argument)
  | _ => none

/-- The program that a node is, with the arguments it is given. Scripts name their interpreters, and
these may be scripts up to a depth. -/
def resolve (t : Files) (cwd : Nat) : Nat → Octets → List Octets → Except Cause (String × List Octets)
  | 0, _, _ => .error .linkLoop
  | depth + 1, path, arguments => do
    let n ← t.find cwd path.toBytes true
    match t.node? n with
    | none => throw .notFound
    | some node =>
      if !node.isRunnable then throw .notPermitted
      match node.content with
      | .program name => return (name, arguments)
      | _ =>
        match interpreter? (Octets.ofBytes node.bytes) with
        | some (name, argument) =>
          if name.isEmpty then throw .wrongFormat
          resolve t cwd depth name (name :: argument.toList ++ path :: arguments.drop 1)
        | none => throw .wrongFormat

/-- Interpreters of interpreters are looked for so deep. -/
def interpreterDepth : Nat := 5

def forkTime : Nat := 200

def executeTime : Nat := 400

/-- What a program has of the process that has become it. -/
def renew (p : Running) : Running :=
  { p with
    descriptors := p.descriptors.filter (·.1 < Running.ownDescriptors)
    handlings := p.handlings.filter (·.2 == .ignored)
    arrived := [] }

def execute (programs : Programs) (s : System) (p : Running) (image : Image) :
    Except Cause System :=
  (resolve s.files p.cwd interpreterDepth image.path image.arguments).map fun (name, arguments) =>
    (s.modify p.number renew).resume p.number (programs name arguments image.environment)
      (s.now + executeTime)

def fork (s : System) (p : Running) (child : Process) (next : Nat → Process) : System :=
  let number := s.next
  let copy := { p with
    number
    parent := p.number
    rest := child
    due := s.now + forkTime
    arrived := []
    held := [] }
  let s := { s with running := s.running ++ [copy], next := number + 1 }
  s.resume p.number (next number) (s.now + forkTime)

/-- The time that a request takes: only writing takes any, so that nobody writes without an end at one
time. -/
def timeOf : Request → Nat
  | .write _ bytes => 10 + bytes.length / 1024
  | .pause time => time
  | _ => 0

/-- One step of a process, at the time of the clock, unless it has to wait. -/
def stepOf (programs : Programs) (s : System) (p : Running) : Option System :=
  match p.rest with
  | .exit code => some (s.finish p.number (.exited (code % 256)))
  | .fork child next => some (s.fork p child next)
  | .execute image failed =>
    match s.execute programs p image with
    | .ok s => some s
    | .error cause => some (s.resume p.number (failed cause) s.now)
  | .ask r next =>
    (s.answer p r).map fun (a, s) =>
      let due := s.now + timeOf r
      s.modify p.number fun p =>
        if p.isAlive then { p with rest := next a, due := max p.due due } else p

/-- The processes that could go on up to a time, the first due in front. -/
def candidates (s : System) (limit : Nat) : List Running :=
  (s.running.filter fun p => p.isAlive && !p.stopped && p.due ≤ limit).mergeSort
    fun p q => p.due ≤ q.due

/-- The next step up to a time, if any process can go on. -/
def step? (programs : Programs) (s : System) (limit : Nat) : Option System :=
  (s.candidates limit).findSome? fun p => stepOf programs { s with now := max s.now p.due } p

/-- Goes on up to a time, or until something holds; so many steps are made at most. -/
def runUntil (programs : Programs) (limit : Nat) (done : System → Bool) : Nat → System → System
  | 0, s => s
  | steps + 1, s =>
    if done s then s
    else match s.step? programs limit with
      | some s => runUntil programs limit done steps s
      | none => { s with now := max s.now limit }

/-- More steps than are made up to any time. -/
def manySteps : Nat := 1000000000

end System

end DevServer.Process
