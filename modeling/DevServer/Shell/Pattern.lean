import DevServer.Text.Octets

/-!
# Shell patterns

A star matches any text, a question mark one character, and a bracket one character of a set. What is
quoted stands for itself.
-/

namespace DevServer.Shell

open Text (Octets)

/-- A character, and whether it is quoted. -/
abbrev Marked := List (Char × Bool)

/-- What a set in brackets holds. -/
inductive Members where
  | range (low high : Char)
  | named (holds : String)
  deriving DecidableEq, Repr

inductive Glob where
  | any
  | one
  | char (c : Char)
  | set (negated : Bool) (members : List Members)
  deriving DecidableEq, Repr

/-- Classes of characters that have names. -/
def classHolds (name : String) (c : Char) : Bool :=
  let graphic := '!' ≤ c && c ≤ '~'
  match name with
  | "alpha" => c.isAlpha
  | "digit" => c.isDigit
  | "alnum" => c.isAlphanum
  | "upper" => c.isUpper
  | "lower" => c.isLower
  | "space" => c == ' ' || ('\t' ≤ c && c ≤ '\r')
  | "blank" => c == ' ' || c == '\t'
  | "punct" => graphic && !c.isAlphanum
  | "print" => graphic || c == ' '
  | "graph" => graphic
  | "cntrl" => c.toNat < 32 || c.toNat = 127
  | "xdigit" => c.isDigit || ('a' ≤ c && c ≤ 'f') || ('A' ≤ c && c ≤ 'F')
  | _ => false

def Members.holds (m : Members) (c : Char) : Bool :=
  match m with
  | range low high => low ≤ c && c ≤ high
  | named name => classHolds name c

/-- The members of a set up to its bracket; the first one may be a bracket itself. -/
def setMembers : Nat → Bool → Marked → Option (List Members × Marked)
  | 0, _, _ => none
  | fuel + 1, first, cs =>
    match cs with
    | [] => none
    | (']', false) :: rest => if first then member fuel ']' rest else some ([], rest)
    | ('[', false) :: (':', false) :: rest =>
      let name := (rest.map (·.1)).takeWhile (· != ':')
      match rest.drop name.length with
      | (':', _) :: (']', _) :: rest =>
        (setMembers fuel false rest).map fun (ms, rest) => (.named (String.ofList name) :: ms, rest)
      | _ => member fuel '[' ((':', false) :: rest)
    | ('\\', false) :: (c, _) :: rest => member fuel c rest
    | (c, _) :: rest => member fuel c rest
where
  /-- A member that begins with a character: alone, or with the end of a range. -/
  member (fuel : Nat) (low : Char) (rest : Marked) : Option (List Members × Marked) :=
    match rest with
    | ('-', false) :: (']', false) :: _ =>
      (setMembers fuel false rest).map fun (ms, rest) => (.range low low :: ms, rest)
    | ('-', false) :: ('\\', false) :: (high, _) :: rest | ('-', false) :: (high, _) :: rest =>
      (setMembers fuel false rest).map fun (ms, rest) => (.range low high :: ms, rest)
    | rest => (setMembers fuel false rest).map fun (ms, rest) => (.range low low :: ms, rest)

/-- The set that begins behind a bracket. -/
def globSet (cs : Marked) : Option (Glob × Marked) :=
  let (negated, cs) := match cs with
    | ('!', false) :: cs => (true, cs)
    | cs => (false, cs)
  (setMembers (2 * cs.length + 2) true cs).map fun (ms, rest) => (.set negated ms, rest)

/-- The pattern of a text. -/
def Glob.ofMarked : Nat → Marked → List Glob
  | 0, _ => []
  | _, [] => []
  | fuel + 1, (c, quoted) :: rest =>
    if quoted then char c :: ofMarked fuel rest
    else if c = '*' then any :: ofMarked fuel rest
    else if c = '?' then one :: ofMarked fuel rest
    else if c = '\\' then
      match rest with
      | (d, _) :: rest => char d :: ofMarked fuel rest
      | [] => [char c]
    else if c = '[' then
      match globSet rest with
      | some (g, after) => g :: ofMarked fuel after
      | none => char c :: ofMarked fuel rest
    else char c :: ofMarked fuel rest

def globOf (cs : Marked) : List Glob := Glob.ofMarked (cs.length + 1) cs

/-- Whether a pattern stands for anything but itself. -/
def isPattern (gs : List Glob) : Bool :=
  gs.any fun g =>
    match g with
    | .char _ => false
    | _ => true

def Glob.accepts (g : Glob) (c : Char) : Bool :=
  match g with
  | any | one => true
  | char d => c == d
  | set negated members => (members.any fun m => m.holds c) != negated

def globMatches : List Glob → Octets → Bool
  | [], cs => cs.isEmpty
  | .any :: gs, cs => (List.range (cs.length + 1)).any fun n => globMatches gs (cs.drop n)
  | _ :: _, [] => false
  | g :: gs, c :: cs => g.accepts c && globMatches gs cs

/-- Whether a pattern matches a file's name; a dot in front has to be named. -/
def globMatchesName (gs : List Glob) (name : Octets) : Bool :=
  (name.head? != some '.' || gs.head? == some (.char '.')) && globMatches gs name

/-- Cuts what a pattern matches off the front of a text, the shortest or the longest part. -/
def cutFront (longest : Bool) (pattern : List Glob) (cs : Octets) : Octets :=
  let sizes := List.range (cs.length + 1)
  let sizes := if longest then sizes.reverse else sizes
  match sizes.find? fun n => globMatches pattern (cs.take n) with
  | some n => cs.drop n
  | none => cs

/-- Cuts what a pattern matches off the end of a text. -/
def cutBack (longest : Bool) (pattern : List Glob) (cs : Octets) : Octets :=
  let sizes := List.range (cs.length + 1)
  let sizes := if longest then sizes else sizes.reverse
  match sizes.find? fun n => globMatches pattern (cs.drop n) with
  | some n => cs.take n
  | none => cs

end DevServer.Shell
