import DevServer.Program.Search

/-!
# Editing streams

A script of commands is run for every line of the input. A command can be bound to addresses, which
are numbers of lines, expressions or the last line.
-/

namespace DevServer.Program

open Failure (Cause)
open Process (Request Routine)
open Text (Octets)

namespace Sed

inductive Address where
  | line (n : Nat)
  /-- Every so many lines from one on. -/
  | every (first step : Nat)
  | last
  | matching (r : Regex)

/-- Where a range of lines ends. -/
inductive RangeEnd where
  | at_ (a : Address)
  | behind (n : Nat)
  | multiple (n : Nat)

/-- The lines that a command is for. -/
structure Span where
  first : Option Address
  last : Option RangeEnd
  negated : Bool

/-- A part of a replacement: text, or what a group has matched; group 0 is the whole match. -/
inductive Piece where
  | text (s : Octets)
  | group (n : Nat)

inductive Action where
  /-- Goes on behind the block if the lines are others. -/
  | block (behind : Nat)
  | nothing
  | substitute (r : Regex) (pieces : List Piece) (all_ : Bool) (number : Nat) (prints : Bool)
      (file : Option Octets)
  | replaceChars (first second : List Char)
  | append (s : Octets)
  | insert (s : Octets)
  | change (s : Octets)
  | readFile (path : Octets)
  | writeFile (path : Octets)
  /-- To a label, or to the end; where `ifChanged`, only behind a substitution, or without one. -/
  | branch (ifChanged : Option Bool) (label : Octets)
  | quit (prints : Bool) (status : Nat)
  | one (c : Char)

structure Instruction where
  span : Span
  action : Action

/-! ### Reading scripts -/

structure Script where
  rest : Octets
  /-- The last instruction first. -/
  done : List Instruction
  /-- Where blocks that are open have begun. -/
  blocks : List Nat
  labels : List (Octets × Nat)
  /-- The last expression that was written. -/
  expression : Option Regex

abbrev Read := StateT Script (Except String)

variable (spelling : Regex.Spelling)

def rest : Read Octets := return (← get).rest

def setRest (cs : Octets) : Read Unit := modify fun s => { s with rest := cs }

def skipBlanks : Read Unit := modify fun s => { s with rest := s.rest.dropWhile Shell.isBlank }

/-- Text up to a delimiter, which a backslash hides. -/
def delimited (finish : Char) (inSet : Bool) : Nat → Octets → Option (Octets × Octets)
  | 0, _ => none
  | fuel + 1, cs =>
    match cs with
    | [] => none
    | '\\' :: c :: cs =>
      let kept : Octets := if c = finish && !inSet then [c] else ['\\', c]
      let kept : Octets := if c = 'n' then ['\\', 'n'] else kept
      (delimited finish inSet fuel cs).map fun (s, rest) => (kept ++ s, rest)
    | c :: cs =>
      if c = finish then some ([], cs)
      else (delimited finish inSet fuel cs).map fun (s, rest) => (c :: s, rest)

def delimitedText (finish : Char) : Read Octets := do
  let cs ← rest
  match delimited finish false (cs.length + 1) cs with
  | some (s, rest) =>
    setRest rest
    return s
  | none => throw "unterminated address regex"

/-- An expression; the empty one is the last one that was written. -/
def expressionOf (ignoresCase : Bool) (text : Octets) : Read Regex := do
  if text.isEmpty then
    match (← get).expression with
    | some r => return r
    | none => throw "no previous regular expression"
  match Regex.ofText { spelling with ignoresCase := spelling.ignoresCase || ignoresCase } text with
  | .ok r =>
    modify fun s => { s with expression := some r }
    return r
  | .error text => throw text

def number : Read Nat := do
  let cs ← rest
  setRest (cs.dropWhile Char.isDigit)
  return Shell.valueInBase 10 (cs.takeWhile Char.isDigit)

def address? : Read (Option Address) := do
  match ← rest with
  | '$' :: cs =>
    setRest cs
    return some .last
  | '/' :: cs =>
    setRest cs
    matching '/'
  | '\\' :: c :: cs =>
    setRest cs
    matching c
  | c :: _ =>
    if c.isDigit then
      let n ← number
      match ← rest with
      | '~' :: cs =>
        setRest cs
        return some (.every n (← number))
      | _ => return some (.line n)
    else return none
  | [] => return none
where
  matching (c : Char) : Read (Option Address) := do
    let text ← delimitedText c
    let ignoresCase ← do
      match ← rest with
      | 'I' :: cs =>
        setRest cs
        pure true
      | _ => pure false
    return some (.matching (← expressionOf spelling ignoresCase text))

def span : Read Span := do
  let first ← address? spelling
  skipBlanks
  let last ← match first, ← rest with
    | some _, ',' :: cs => do
      setRest cs
      skipBlanks
      match ← rest with
      | '+' :: cs =>
        setRest cs
        pure (some (.behind (← number)))
      | '~' :: cs =>
        setRest cs
        pure (some (.multiple (← number)))
      | _ =>
        match ← address? spelling with
        | some a => pure (some (.at_ a))
        | none => throw "unexpected ','"
    | _, _ => pure none
  skipBlanks
  let marks := (← rest).takeWhile fun c => c == '!' || Shell.isBlank c
  setRest ((← rest).drop marks.length)
  return ⟨first, last, marks.contains '!'⟩

/-- The pieces of a replacement. -/
def pieces : Octets → List Piece
  | [] => []
  | '\\' :: 'n' :: cs => .text ['\n'] :: pieces cs
  | '\\' :: 't' :: cs => .text ['\t'] :: pieces cs
  | '\\' :: c :: cs =>
    (if c.isDigit then .group (Shell.digitOf c) else .text [c]) :: pieces cs
  | '&' :: cs => .group 0 :: pieces cs
  | c :: cs => .text [c] :: pieces cs

/-- Text up to the end of the line, where a backslash hides the end. -/
def lineText : Nat → Octets → Octets × Octets
  | 0, cs => ([], cs)
  | fuel + 1, cs =>
    match cs with
    | [] => ([], [])
    | '\\' :: c :: cs =>
      let (s, rest) := lineText fuel cs
      (c :: s, rest)
    | '\n' :: cs => ([], cs)
    | c :: cs =>
      let (s, rest) := lineText fuel cs
      (c :: s, rest)

/-- The text of a command that adds text. -/
def addedText : Read Octets := do
  skipBlanks
  let cs ← rest
  let cs := match cs with
    | '\\' :: cs =>
      match cs.dropWhile fun c => c == ' ' || c == '\t' with
      | '\n' :: cs => cs
      | _ => cs
    | cs => cs
  let (s, rest) := lineText (cs.length + 1) cs
  setRest rest
  return line s

/-- A word up to the end of the line, or of the command. -/
def restOfLine (semicolons : Bool) : Read Octets := do
  skipBlanks
  let isLast (c : Char) : Bool := c == '\n' || (semicolons && (c == ';' || c == '\x7d'))
  let cs ← rest
  setRest (cs.dropWhile (!isLast ·))
  let word := cs.takeWhile (!isLast ·)
  return if semicolons then (word.reverse.dropWhile Shell.isBlank).reverse else word

def substitution : Read Action := do
  match ← rest with
  | [] => throw "unterminated `s' command"
  | c :: cs =>
    let some (pattern, cs) := delimited c false (cs.length + 1) cs | throw "unterminated `s' command"
    let some (text, cs) := delimited c false (cs.length + 1) cs | throw "unterminated `s' command"
    let isFlag (c : Char) : Bool := c.isDigit || "gpIieMm".toList.contains c
    let flags := cs.takeWhile isFlag
    setRest (cs.drop flags.length)
    let file ← do
      match ← rest with
      | 'w' :: cs =>
        setRest cs
        pure (some (← restOfLine false))
      | _ => pure none
    let r ← expressionOf spelling (flags.contains 'I' || flags.contains 'i') pattern
    let n := Shell.valueInBase 10 (flags.filter Char.isDigit)
    return .substitute r (pieces text) (flags.contains 'g') (max n 1) (flags.contains 'p') file

/-- Characters with backslash sequences resolved. -/
def plainChars : Octets → List Char
  | [] => []
  | '\\' :: 'n' :: cs => '\n' :: plainChars cs
  | '\\' :: c :: cs => c :: plainChars cs
  | c :: cs => c :: plainChars cs

def action (c : Char) : Read Action := do
  match c with
  | 's' => substitution spelling
  | 'y' =>
    match ← rest with
    | [] => throw "unterminated `y' command"
    | c :: cs =>
      let some (a, cs) := delimited c false (cs.length + 1) cs | throw "unterminated `y' command"
      let some (b, cs) := delimited c false (cs.length + 1) cs | throw "unterminated `y' command"
      setRest cs
      return .replaceChars (plainChars a) (plainChars b)
  | 'a' => return .append (← addedText)
  | 'i' => return .insert (← addedText)
  | 'c' => return .change (← addedText)
  | 'r' => return .readFile (← restOfLine false)
  | 'w' => return .writeFile (← restOfLine false)
  | 'b' => return .branch none (← restOfLine true)
  | 't' => return .branch (some true) (← restOfLine true)
  | 'T' => return .branch (some false) (← restOfLine true)
  | 'q' => do
    skipBlanks
    return .quit true (← number)
  | 'Q' => do
    skipBlanks
    return .quit false (← number)
  | c =>
    if "=dDgGhHlnNpPxzF".toList.contains c then return .one c
    else throw s!"unknown command: `{c}'"

/-- Reads all commands of a script. -/
def commands : Nat → Read Unit
  | 0 => return ()
  | fuel + 1 => do
    modify fun s => { s with rest := s.rest.dropWhile fun c => Shell.isBlank c || c == ';' }
    if (← rest).isEmpty then
      if !(← get).blocks.isEmpty then throw "unmatched `\x7b'"
      return ()
    let where_ ← span spelling
    match ← rest with
    | [] => throw "missing command"
    | '#' :: cs => setRest (cs.dropWhile (· != '\n'))
    | '\x7b' :: cs =>
      setRest cs
      modify fun s => { s with
        blocks := s.done.length :: s.blocks
        done := ⟨where_, .block 0⟩ :: s.done }
    | '\x7d' :: cs =>
      setRest cs
      let s ← get
      match s.blocks with
      | [] => throw "unexpected `\x7d'"
      | begin_ :: blocks =>
        let done := s.done.reverse.modify begin_ fun i => { i with action := .block s.done.length }
        set { s with blocks, done := done.reverse }
    | ':' :: cs =>
      setRest cs
      let label ← restOfLine true
      modify fun s => { s with labels := (label, s.done.length) :: s.labels }
    | c :: cs =>
      setRest cs
      let a ← action spelling c
      modify fun s => { s with done := ⟨where_, a⟩ :: s.done }
    commands fuel

/-- The instructions of a script and its labels. -/
def instructions (text : Octets) : Except String (Array Instruction × List (Octets × Nat)) := do
  let ((), s) ← (commands spelling (text.length + 1)).run ⟨text, [], [], [], none⟩
  return (s.done.reverse.toArray, s.labels)

/-! ### Reading lines -/

/-- Lines of files, one behind the other. -/
structure Lines where
  paths : List Octets
  descriptor : Option Nat
  ready : List Octets
  held : Octets
  status : Nat

/-- Reads until a line is there, if there is one; so many steps are made at most. -/
def Lines.fill (name : Octets) (s : Lines) : Routine Lines :=
  Routine.repeated (fun (s : Lines) => do
    if !s.ready.isEmpty then return .inr s
    match s.descriptor with
    | none =>
      match s.paths with
      | [] => return .inr s
      | path :: paths =>
        if path = ['-'] then return .inl { s with paths, descriptor := some 0 }
        match ← Routine.ask (.open path .reading) with
        | .ok d => return .inl { s with paths, descriptor := some d }
        | .error cause =>
          complainOf name ("can't read ".toList ++ path) cause
          return .inl { s with paths, status := 2 }
    | some d =>
      match ← Routine.ask (.read d Routine.readSize) with
      | .ok [] =>
        let _ ← Routine.ask (.close d)
        let ready := if s.held.isEmpty then [] else [s.held]
        return .inl { s with descriptor := none, ready, held := [] }
      | .ok piece =>
        let (ready, held) := completeLines (s.held ++ piece)
        return .inl { s with ready, held }
      | .error cause =>
        complainOf name "read error".toList cause
        return .inl { s with descriptor := none, status := 2 }) id Routine.manyTurns s

/-! ### Running -/

structure Running where
  input : Lines
  line : Nat
  space : Octets
  /-- Whether the line of the space has an end. -/
  ended : Bool
  hold : Octets
  /-- What is written behind the line. -/
  behind : Octets
  out : Octets
  changed : Bool
  /-- The ranges that have begun, each with its last line if that is known. -/
  ranges : List (Nat × Option Nat)
  /-- What is written to files. -/
  files : List (Octets × Octets)
  /-- Whether the output is kept until the end. -/
  keeps : Bool

/-- What comes behind an instruction. -/
inductive Next where
  | step
  | jump (place : Nat)
  | finish
  /-- The next cycle begins with the space as it is. -/
  | again
  | drop
  | quit (prints : Bool) (status : Nat)

abbrev Run := StateT Running Routine

def isLast (name : Octets) : Run Bool := do
  let s ← get
  let input ← liftM (s.input.fill name)
  set { s with input }
  return input.ready.isEmpty

def holds (name : Octets) (a : Address) : Run Bool := do
  let s ← get
  match a with
  | .line n => return s.line = n
  | .every first step =>
    return if step = 0 then s.line = first else first ≤ s.line && (s.line - first) % step = 0
  | .last => isLast name
  | .matching r => return r.isIn s.space

def setRange (place : Nat) (r : Option (Option Nat)) : Run Unit :=
  modify fun s => { s with
    ranges := (r.map (place, ·)).toList ++ s.ranges.filter (·.1 != place) }

/-- Whether an instruction is for the current line, which is the last of its range in the second
part. -/
def isFor (name : Octets) (place : Nat) (w : Span) : Run (Bool × Bool) := do
  let s ← get
  match w.first, w.last with
  | none, _ => return (!w.negated, true)
  | some a, none => return ((← holds name a) != w.negated, true)
  | some a, some e =>
    let begins : Run (Bool × Bool) := do
      if !(← holds name a) then return (false, true)
      let known := match e with
        | .at_ (.line n) => some n
        | .behind n => some (s.line + n)
        | .multiple n => some (if n = 0 then s.line else (s.line + n - 1) / n * n)
        | .at_ _ => none
      match known with
      | some n =>
        if n ≤ s.line then return (true, true)
        setRange place (some (some n))
        return (true, false)
      | none =>
        setRange place (some none)
        return (true, false)
    let (inRange, atEnd) ← match s.ranges.lookup place with
      | none =>
        match a, e with
        | .line 0, .at_ b =>
          if s.line = 1 then
            if ← holds name b then pure (true, true)
            else do
              setRange place (some none)
              pure (true, false)
          else pure (false, true)
        | _, _ => begins
      | some (some n) =>
        if s.line < n then pure (true, false)
        else do
          setRange place none
          if s.line = n then pure (true, true) else begins
      | some none =>
        match e with
        | .at_ b =>
          if ← holds name b then do
            setRange place none
            pure (true, true)
          else pure (true, false)
        | _ => pure (true, true)
    return (inRange != w.negated, atEnd)

def emit (s : Octets) : Run Unit := modify fun r => { r with out := r.out ++ s }

/-- Writes the space as a line. -/
def emitSpace : Run Unit := do
  let s ← get
  emit (if s.ended then line s.space else s.space)

/-- The text of a replacement for a match. -/
def replaced (text : Octets) (m : Regex.Match) (ps : List Piece) : Octets :=
  ps.flatMap fun
    | .text s => s
    | .group 0 => (text.drop m.start).take m.length
    | .group n =>
      match m.groups.lookup n with
      | some (start, length) => (text.drop start).take length
      | none => []

/-- Replaces matches from the `number`-th on, or only that one, and counts them. -/
def substitute (r : Regex) (ps : List Piece) (all_ : Bool) (text : Octets) :
    Nat → Nat → Nat → Bool → Octets × Bool
  | 0, _, from_, _ => (text.drop from_, false)
  | fuel + 1, number, from_, afterMatch =>
    match r.find? text from_ with
    | none => (text.drop from_, false)
    | some m =>
      let before := (text.drop from_).take (m.start - from_)
      if m.length = 0 && afterMatch && m.start = from_ then
        match text[from_]? with
        | none => ([], false)
        | some c =>
          let (s, done) := substitute r ps all_ text fuel number (from_ + 1) false
          (c :: s, done)
      else
        let matched := (text.drop m.start).take m.length
        let hit := number ≤ 1
        let new := if hit then replaced text m ps else matched
        let finish := m.start + m.length
        if hit && !all_ then (before ++ new ++ text.drop finish, true)
        else if m.length = 0 then
          match text[finish]? with
          | none => (before ++ new, hit)
          | some c =>
            let (s, done) := substitute r ps all_ text fuel (number - 1) (finish + 1) false
            (before ++ new ++ c :: s, done || hit)
        else
          let (s, done) := substitute r ps all_ text fuel (number - 1) finish true
          (before ++ new ++ s, done || hit)

/-- Takes the next line, if there is one. -/
def takeLine (name : Octets) : Run (Option Octets) := do
  if ← isLast name then return none
  let s ← get
  match s.input.ready with
  | l :: ready =>
    set { s with
      input := { s.input with ready }, line := s.line + 1, ended := l.getLast? = some '\n' }
    return some (bare l)
  | [] => return none

def addToFile (path text : Octets) : Run Unit :=
  modify fun s => { s with
    files := (path, (s.files.lookup path).getD [] ++ text) :: s.files.filter (·.1 != path) }

def firstLine (s : Octets) : Octets := s.takeWhile (· != '\n')

/-- Writes what there is in whole blocks. -/
def flush : Run Unit := do
  let s ← get
  if !s.keeps then
    let (now, later) := wholeBlocks s.out
    let _ ← liftM (Routine.writeAll 1 now)
    set { s with out := later }

/-- The end of a cycle: the line, and what is written behind it. -/
def endCycle (prints : Bool) : Run Unit := do
  if prints then emitSpace
  modify fun s => { s with out := s.out ++ s.behind, behind := [] }
  flush

def perform (name : Octets) (prints : Bool) (labels : List (Octets × Nat)) (atEnd : Bool)
    (w : Span) (a : Action) : Run Next := do
  let s ← get
  match a with
  | .block _ | .nothing => return .step
  | .substitute r ps all_ n shows file =>
    let (space, done) := substitute r ps all_ s.space (2 * s.space.length + 4) n 0 false
    if done then
      set { s with space, changed := true }
      if shows then emitSpace
      if let some path := file then addToFile path (line space)
    return .step
  | .replaceChars first second =>
    set { s with space := s.space.map (replacement first second) }
    return .step
  | .append text =>
    set { s with behind := s.behind ++ text }
    return .step
  | .insert text =>
    emit text
    return .step
  | .change text =>
    if w.last.isNone || atEnd then emit text
    return .drop
  | .readFile path =>
    let text := (← liftM (Routine.readFile path)).toOption.getD []
    set { s with behind := s.behind ++ text }
    return .step
  | .writeFile path =>
    addToFile path (line s.space)
    return .step
  | .branch ifChanged label =>
    let goes := ifChanged.all (· == s.changed)
    if ifChanged.isSome then modify fun s => { s with changed := false }
    if !goes then return .step
    return if label.isEmpty then .finish else match labels.lookup label with
      | some n => .jump n
      | none => .finish
  | .quit shows status => return .quit (shows && prints) status
  | .one c =>
    match c with
    | '=' =>
      emit (line (Nat.toDigits 10 s.line))
      return .step
    | 'd' => return .drop
    | 'D' =>
      if s.space.contains '\n' then
        set { s with space := (s.space.dropWhile (· != '\n')).drop 1 }
        return .again
      else return .drop
    | 'g' => set { s with space := s.hold }
    | 'G' => set { s with space := s.space ++ '\n' :: s.hold }
    | 'h' => set { s with hold := s.space }
    | 'H' => set { s with hold := s.hold ++ '\n' :: s.space }
    | 'x' => set { s with space := s.hold, hold := s.space }
    | 'z' => set { s with space := [] }
    | 'p' => emitSpace
    | 'P' => emit (line (firstLine s.space))
    | 'n' =>
      if ← isLast name then return .quit prints 0
      endCycle prints
      match ← takeLine name with
      | some l => modify fun s => { s with space := l }
      | none => pure ()
    | 'N' =>
      if ← isLast name then return .quit prints 0
      match ← takeLine name with
      | some l => modify fun s => { s with space := s.space ++ '\n' :: l }
      | none => pure ()
    | _ => pure ()
    return .step

/-- Runs the instructions from one on; so many steps are made at most. -/
def cycle (name : Octets) (prints : Bool) (is : Array Instruction) (labels : List (Octets × Nat)) :
    Nat → Nat → Run Next
  | 0, _ => return .finish
  | fuel + 1, place => do
    match is[place]? with
    | none => return .finish
    | some i =>
      let (good, atEnd) ← isFor name place i.span
      match i.action, good with
      | .block behind, false => cycle name prints is labels fuel behind
      | _, false => cycle name prints is labels fuel (place + 1)
      | a, true =>
        match ← perform name prints labels atEnd i.span a with
        | .step => cycle name prints is labels fuel (place + 1)
        | .jump n => cycle name prints is labels fuel n
        | next => return next

/-- So many instructions are run for a line at most. -/
def longestCycle : Nat := 1000000

/-- Runs all cycles; the value is the status. -/
def cycles (name : Octets) (prints : Bool) (is : Array Instruction) (labels : List (Octets × Nat)) :
    Running → Routine (Nat × Running) := fun s => do
  let turn (s : Running × Bool) : Routine ((Running × Bool) ⊕ (Nat × Running)) := do
    let run : Run (Option (Nat × Bool)) := do
      let ready ← if s.2 then pure true else do
        match ← takeLine name with
        | some l =>
          modify fun s => { s with space := l, changed := false }
          pure true
        | none => pure false
      if !ready then return some ((← get).input.status, false)
      match ← cycle name prints is labels longestCycle 0 with
      | .quit shows status =>
        endCycle shows
        return some (status, false)
      | .drop =>
        endCycle false
        return none
      | .again =>
        endCycle false
        return some (0, true)
      | _ =>
        endCycle prints
        return none
    let (next, after) ← run.run s.1
    match next with
    | none => return .inl (after, false)
    | some (_, true) => return .inl (after, true)
    | some (status, false) => return .inr (status, after)
  Routine.repeated turn (fun s => (0, s.1)) Routine.manyTurns (s, false)

end Sed

def sedKnown : Known := known "nErsuzi" "ef" [("quiet", 'n'), ("silent", 'n'),
  ("regexp-extended", 'E'), ("expression", 'e'), ("file", 'f'), ("in-place", 'i'), ("separate", 's'),
  ("unbuffered", 'u')]

/-- Writes the files that a script has written to. -/
def writeFiles (files : List (Octets × Octets)) : Routine Unit := do
  for (path, text) in files.reverse do
    if path = "/dev/stdout".toList then
      let _ ← Routine.writeAll 1 text
    else
      match ← Routine.ask (.open path (.writing 0o666)) with
      | .ok d =>
        let _ ← Routine.writeAll d text
        let _ ← Routine.ask (.close d)
      | .error _ => pure ()

/-- Puts a text where a file was, as a new file that takes its name; the old one is kept if it is given
an ending. -/
def replaceFile (name ending path text : Octets) : Routine Nat := do
  let other := (upperPath path) ++ "/sedAbCdEf".toList
  match ← Routine.ask (.open other (.writing 0o600)) with
  | .error cause =>
    complainOf name ("couldn't open temporary file ".toList ++ other) cause
    return 4
  | .ok d =>
    let _ ← Routine.writeAll d text
    let _ ← Routine.ask (.close d)
    if !ending.isEmpty then
      let _ ← Routine.ask (.edit (.rename path.toBytes (path ++ ending).toBytes))
    let _ ← Routine.ask (.edit (.rename other.toBytes path.toBytes))
    return 0

def sed (argv _ : List Octets) : Routine Nat := do
  let (name, args) := called argv
  let isInPlace (a : Octets) : Bool := ['-', 'i'].isPrefixOf a
  let ending := ((args.find? isInPlace).map (·.drop 2)).getD []
  let args := args.map fun a => if isInPlace a then a.take 2 else a
  sedKnown.parse 1 name args fun g => do
    let scripts ← g.options.filterMapM fun (c, value) => do
      if c == 'e' then return some value
      else if c == 'f' then return some ((← Routine.readFile value).toOption.getD [])
      else return none
    let isGiven := g.has 'e' || g.has 'f'
    if !isGiven && g.operands.isEmpty then return ← missing name "no script specified"
    let text := if isGiven then ['\n'].intercalate scripts else g.operands.headD []
    let paths := inputs (if isGiven then g.operands else g.operands.drop 1)
    match Sed.instructions ⟨g.has 'E' || g.has 'r', false⟩ text with
    | .error text =>
      complain name ("-e expression #1, char 1: ".toList ++ text.toList)
      return 1
    | .ok (is, labels) =>
      let prints := !g.has 'n'
      let start (paths : List Octets) : Sed.Running :=
        ⟨⟨paths, none, [], [], 0⟩, 0, [], true, [], [], [], false, [], [], g.has 'i'⟩
      if g.has 'i' then
        let mut status := 0
        for path in paths do
          match ← Routine.readFile path with
          | .error cause =>
            complainOf name ("can't read ".toList ++ path) cause
            status := 4
          | .ok content =>
            let s := start []
            let input := { s.input with ready := fullLines content }
            let (_, s) ← Sed.cycles name prints is labels { s with input }
            status := max status (← replaceFile name ending path s.out)
            writeFiles s.files
        return status
      else
        let (status, s) ← Sed.cycles name prints is labels (start paths)
        let written ← print name s.out
        writeFiles s.files
        return max status written

end DevServer.Program
