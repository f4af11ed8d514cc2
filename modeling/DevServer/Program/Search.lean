import DevServer.Program.Lines
import DevServer.Program.Regex

/-!
# Searching lines

Lines that match expressions are selected, shown and counted.
-/

namespace DevServer.Program

open Failure (Cause)
open Process (Request Routine)
open Text (Octets)

/-- What is looked for in lines. -/
structure Wanted where
  expressions : List Regex
  /-- Whether lines are wanted that do not match. -/
  inverted : Bool
  /-- Whether a match has to be a whole word, or a whole line. -/
  words : Bool
  lines : Bool

namespace Wanted

/-- The matches of an expression from an index on, one of which will do. -/
def accept (w : Wanted) (text : Octets) (r : Regex) : Nat → Nat → Option Regex.Match
  | 0, _ => none
  | fuel + 1, from_ =>
    match r.find? text from_ with
    | none => none
    | some m =>
      let isEdge (c : Option Char) : Bool := !(c.any Regex.isWordChar)
      let after := m.start + m.length
      let good :=
        (!w.lines || (m.start = 0 && after = text.length)) &&
        (!w.words || (isEdge (if m.start = 0 then none else text[m.start - 1]?) && isEdge text[after]?))
      if good then some m else w.accept text r fuel (m.start + 1)

/-- The first match from an index on. -/
def find? (w : Wanted) (text : Octets) (from_ : Nat) : Option Regex.Match :=
  (w.expressions.filterMap fun r => w.accept text r (text.length + 2) from_).foldl (fun best m =>
    match best with
    | none => some m
    | some b =>
      if m.start < b.start || (m.start = b.start && b.length < m.length) then some m else some b) none

def selects (w : Wanted) (text : Octets) : Bool := (w.find? text 0).isSome != w.inverted

/-- The parts of a line that match. -/
def parts (w : Wanted) (text : Octets) : Nat → Nat → List Octets
  | 0, _ => []
  | fuel + 1, from_ =>
    match w.find? text from_ with
    | none => []
    | some m =>
      if m.length = 0 then w.parts text fuel (m.start + 1)
      else (text.drop m.start).take m.length :: w.parts text fuel (m.start + m.length)

end Wanted

/-- How selected lines are shown. -/
structure Selection where
  wanted : Wanted
  /-- Nothing, only numbers, only names of files with matches or without any, or only matching parts. -/
  quiet : Bool
  counts : Bool
  names : Bool
  otherNames : Bool
  parts : Bool
  titles : Bool
  numbers : Bool
  most : Option Nat
  /-- How many lines are shown before and after selected ones. -/
  before : Nat
  after : Nat

/-- Where a selection is in a file. -/
structure Selected where
  line : Nat
  found : Nat
  /-- Lines before, the last first, that have not been shown. -/
  waiting : List (Nat × Octets)
  /-- How many lines are still to be shown behind a selected one. -/
  trailing : Nat
  /-- The number of the last line that was shown. -/
  shown : Nat

namespace Selection

def isShowing (o : Selection) : Bool := !(o.quiet || o.counts || o.names || o.otherNames)

def titled (o : Selection) (path : Octets) (mark : Char) (n : Nat) (l : Octets) : Octets :=
  (if o.titles then path ++ [mark] else []) ++
    (if o.numbers then Nat.toDigits 10 n ++ [mark] else []) ++ line l

def hasContext (o : Selection) : Bool := 0 < o.before || 0 < o.after

/-- One line of a file: what is shown for it, and whether more lines are wanted. -/
def step (o : Selection) (path : Octets) (s : Selected) (full : Octets) : Octets × Selected × Bool :=
  let text := bare full
  let n := s.line + 1
  let s := { s with line := n }
  if o.most = some 0 then ([], s, false)
  else if o.wanted.selects text then
    let found := s.found + 1
    let goesOn := !(o.quiet || o.names || o.otherNames) && o.most.all (found < ·)
    let context := s.waiting.reverse
    let first := (context.head?.map (·.1)).getD n
    let gap : Octets := if o.hasContext && 0 < s.shown && s.shown + 1 < first then "--\n".toList else []
    let out :=
      if !o.isShowing then []
      else if o.parts then
        if o.wanted.inverted then []
        else (o.wanted.parts text (text.length + 2) 0).flatMap (o.titled path ':' n)
      else gap ++ context.flatMap (fun (k, l) => o.titled path '-' k l) ++ o.titled path ':' n text
    (out, { s with found, waiting := [], trailing := o.after, shown := n }, goesOn)
  else if 0 < s.trailing then
    (if o.isShowing && !o.parts then o.titled path '-' n text else [],
      { s with trailing := s.trailing - 1, shown := n }, true)
  else ([], { s with waiting := ((n, text) :: s.waiting).take o.before }, true)

/-- What is shown behind the lines of a file. -/
def summary (o : Selection) (path : Octets) (found : Nat) : Octets :=
  if o.quiet then []
  else if o.names then (if 0 < found then line path else [])
  else if o.otherNames then (if found = 0 then line path else [])
  else if o.counts then (if o.titles then path ++ [':'] else []) ++ line (Nat.toDigits 10 found)
  else []

end Selection

def grepKnown : Known := known "EFGPivcnqshHloLrRwxaIUzZbT" "efmABC" [("extended-regexp", 'E'),
  ("fixed-strings", 'F'), ("basic-regexp", 'G'), ("perl-regexp", 'P'), ("ignore-case", 'i'),
  ("invert-match", 'v'), ("count", 'c'), ("line-number", 'n'), ("quiet", 'q'), ("silent", 'q'),
  ("no-messages", 's'), ("no-filename", 'h'), ("with-filename", 'H'), ("files-with-matches", 'l'),
  ("files-without-match", 'L'), ("only-matching", 'o'), ("recursive", 'r'), ("word-regexp", 'w'),
  ("line-regexp", 'x'), ("regexp", 'e'), ("file", 'f'), ("max-count", 'm'), ("after-context", 'A'),
  ("before-context", 'B'), ("context", 'C'), ("text", 'a'), ("color", 'T'), ("line-buffered", 'U')]

/-- The files of directories, in order, to a depth; other paths stand for themselves. -/
def filesBelow : Nat → Octets → Routine (List Octets)
  | 0, path => return [path]
  | depth + 1, path => do
    match ← Routine.ask (.list path) with
    | .error _ => return [path]
    | .ok names =>
      let below ← names.mapM fun name =>
        filesBelow depth (if path.getLast? = some '/' then path ++ name else path ++ '/' :: name)
      return below.flatten

/-- Files are looked for so deep. -/
def deepest : Nat := 200

/-- An expression that matches a text as it is. -/
def fixedText (s : Regex.Spelling) (text : Octets) : Regex :=
  text.foldl (fun r c => .sequence r (Regex.letter s c)) .empty

def grep (argv _ : List Octets) : Routine Nat := do
  let (name, args) := called argv
  grepKnown.parse 2 name args fun g => do
    let given := g.all 'e'
    let fromFiles ← (g.all 'f').mapM fun path => do
      let (texts, _) ← readInputs name 2 [path]
      return texts.flatMap fun (_, s) => bareLines s
    let isNamed := g.has 'e' || g.has 'f'
    if !isNamed && g.operands.isEmpty then
      let _ ← Routine.writeAll 2 ("Usage: grep [OPTION]... PATTERNS [FILE]...\n" ++
        "Try 'grep --help' for more information.\n").toList
      return 2
    let texts := (given ++ if isNamed then [] else g.operands.take 1).flatMap (fieldsOf (some '\n'))
    let texts := texts ++ fromFiles.flatten
    let paths := if isNamed then g.operands else g.operands.drop 1
    let kind := (g.lastOf ['E', 'F', 'G', 'P']).getD (if name.headD 'g' == 'e' then 'E'
      else if name.headD 'g' == 'f' then 'F' else 'G')
    let spelling : Regex.Spelling := ⟨kind == 'E' || kind == 'P', g.has 'i'⟩
    match texts.mapM fun t =>
        if kind == 'F' then .ok (fixedText spelling t) else Regex.ofText spelling t with
    | .error text =>
      complain name text.toList
      return 2
    | .ok expressions =>
      let recursive := g.has 'r' || g.has 'R'
      let number (c : Char) : Nat := ((g.last? c).map (Shell.valueInBase 10)).getD 0
      let paths ← if recursive then do
          pure (← ((if paths.isEmpty then [['.']] else paths).mapM (filesBelow deepest))).flatten
        else pure (inputs paths)
      let o : Selection := {
        wanted := ⟨expressions, g.has 'v', g.has 'w', g.has 'x'⟩
        quiet := g.has 'q'
        counts := g.has 'c'
        names := g.has 'l'
        otherNames := g.has 'L'
        parts := g.has 'o'
        titles := match g.lastOf ['h', 'H'] with
          | some c => c == 'H'
          | none => 1 < paths.length || recursive
        numbers := g.has 'n'
        most := (g.last? 'm').map (Shell.valueInBase 10)
        before := max (number 'B') (number 'C')
        after := max (number 'A') (number 'C') }
      let mut status := 1
      let mut failed := false
      for path in paths do
        let shownPath := if path = ['-'] then "(standard input)".toList else path
        match ← withInput path fun d => passingLines d (o.step shownPath) ⟨0, 0, [], 0, 0⟩ with
        | .error cause =>
          if !g.has 's' then complainOf name path cause
          failed := true
        | .ok (stretch, s) =>
          match stretch with
          | .unread cause =>
            if !g.has 's' then complainOf name path cause
            failed := true
          | .unwritten cause =>
            complainOf name "write error".toList cause
            return 2
          | .done => pure ()
          let _ ← print name (o.summary shownPath s.found)
          if (0 < s.found) != o.otherNames then status := 0
          if o.quiet && 0 < s.found then return 0
      return if failed then 2 else status

end DevServer.Program
