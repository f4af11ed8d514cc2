import DevServer.Shell.Arithmetic
import DevServer.Shell.Pattern

/-!
# Regular expressions

Expressions in both of their usual spellings, and where they match. Of the matches that begin first,
the longest counts.
-/

namespace DevServer.Program

open Shell (Members)
open Text (Octets)

inductive Regex where
  | empty
  | char (c : Char)
  | any
  | oneOf (negated : Bool) (members : List Members)
  | start
  | finish
  /-- At the beginning or at the end of a word, or anywhere between such places. -/
  | wordStart
  | wordFinish
  | wordEdge (there : Bool)
  | sequence (a b : Regex)
  | either (a b : Regex)
  | repeated (a : Regex) (least : Nat) (most : Option Nat)
  | group (number : Nat) (a : Regex)
  /-- What a group has matched, once more. -/
  | again (number : Nat)
  deriving Repr

namespace Regex

/-- A place in a text. -/
structure Place where
  before : Option Char
  rest : Octets
  index : Nat

/-- What the groups have matched: where that begins and how long it is. -/
abbrev Groups := List (Nat × Nat × Nat)

abbrev Ends := List (Place × Groups)

def Place.next? (p : Place) : Option (Char × Place) :=
  match p.rest with
  | c :: rest => some (c, ⟨some c, rest, p.index + 1⟩)
  | [] => none

def isWordChar (c : Char) : Bool := c.isAlphanum || c == '_'

def Place.afterWord (p : Place) : Bool := p.before.any isWordChar

def Place.beforeWord (p : Place) : Bool := p.rest.head?.any isWordChar

/-- One end for each place. -/
def distinct (es : Ends) : Ends :=
  es.foldl (fun kept e => if kept.any (·.1.index == e.1.index) then kept else kept ++ [e]) []

/-- The ends of a repetition; `at_` are those of as many turns as have been taken. -/
def turns (f : Place × Groups → Ends) : Nat → Nat → Option Nat → Ends → Ends → Ends
  | 0, _, _, found, _ => found
  | fuel + 1, least, most, found, at_ =>
    let found := if least = 0 then distinct (found ++ at_) else found
    if most = some 0 || at_.isEmpty then found
    else
      let next := distinct (at_.flatMap f)
      let next := if least = 0 then
          next.filter fun e => !found.any (·.1.index == e.1.index)
        else next
      turns f fuel (least - 1) (most.map (· - 1)) found next

/-- Steps over one character of some kind. -/
def stepOver (holds : Char → Bool) (e : Place × Groups) : Ends :=
  match e.1.next? with
  | some (c, p) => if holds c then [(p, e.2)] else []
  | none => []

def stay (holds : Bool) (e : Place × Groups) : Ends := if holds then [e] else []

/-- Where matches that begin at a place can end; `text` is the whole text. -/
def ends (text : Octets) : Regex → Place × Groups → Ends
  | .empty, e => [e]
  | .char c, e => stepOver (· == c) e
  | .any, e => stepOver (fun _ => true) e
  | .oneOf negated ms, e => stepOver (fun c => ms.any (·.holds c) != negated) e
  | .start, e => stay (e.1.index = 0) e
  | .finish, e => stay e.1.rest.isEmpty e
  | .wordStart, e => stay (!e.1.afterWord && e.1.beforeWord) e
  | .wordFinish, e => stay (e.1.afterWord && !e.1.beforeWord) e
  | .wordEdge there, e => stay ((e.1.afterWord != e.1.beforeWord) == there) e
  | .sequence a b, e => distinct ((ends text a e).flatMap (ends text b))
  | .either a b, e => distinct (ends text a e ++ ends text b e)
  | .repeated a least most, e =>
    (turns (ends text a) (e.1.rest.length + least + 2) least most [] [e]).reverse
  | .group n a, e =>
    (ends text a e).map fun (p, groups) =>
      (p, (n, e.1.index, p.index - e.1.index) :: groups.filter (·.1 != n))
  | .again n, e =>
    match e.2.lookup n with
    | none => []
    | some (at_, length) =>
      let wanted := (text.drop at_).take length
      if wanted.isPrefixOf e.1.rest then
        [(⟨wanted.getLast?.or e.1.before, e.1.rest.drop length, e.1.index + length⟩, e.2)]
      else []

/-- A match: where it begins, how long it is, and its groups. -/
structure Match where
  start : Nat
  length : Nat
  groups : Groups
  deriving Repr

/-- The longest match that begins at a place. -/
def matchAt (r : Regex) (text : Octets) (p : Place) : Option Match :=
  let es := ends text r (p, [])
  let longest := (es.map (·.1.index)).foldl max p.index
  (es.find? (·.1.index == longest)).map fun (q, groups) => ⟨p.index, q.index - p.index, groups⟩

/-- The first match from a place on; there are no more places than this. -/
def search (r : Regex) (text : Octets) : Nat → Place → Option Match
  | 0, _ => none
  | fuel + 1, p =>
    match r.matchAt text p with
    | some m => some m
    | none =>
      match p.next? with
      | some (_, p) => search r text fuel p
      | none => none

/-- The place so far into a text. -/
def placeAt (text : Octets) (index : Nat) : Place :=
  ⟨if index = 0 then none else text[index - 1]?, text.drop index, index⟩

/-- The first match in a text from some index on. -/
def find? (r : Regex) (text : Octets) (from_ : Nat) : Option Match :=
  r.search text (text.length + 1) (placeAt text from_)

def isIn (r : Regex) (text : Octets) : Bool := (r.find? text 0).isSome

/-- Whether there is a group in an expression. -/
def hasGroup : Regex → Bool
  | .group _ _ => true
  | .sequence a b | .either a b => a.hasGroup || b.hasGroup
  | .repeated a _ _ => a.hasGroup
  | _ => false

/-! ### Reading -/

/-- How an expression is written. -/
structure Spelling where
  /-- Whether brackets and the like work without a backslash. -/
  extended : Bool
  ignoresCase : Bool
  deriving DecidableEq, Repr

/-- What is still to be read, and how many groups have begun. -/
structure Reading where
  rest : Octets
  groups : Nat

abbrev Read := StateT Reading (Except String)

variable (s : Spelling)

def letter (c : Char) : Regex :=
  if s.ignoresCase && c.isAlpha then
    .oneOf false [.range c.toLower c.toLower, .range c.toUpper c.toUpper]
  else .char c

/-- Members of a set in both cases. -/
def bothCases (ms : List Members) : List Members :=
  ms ++ ms.filterMap fun
    | .range a b =>
      if a.isLower && b.isLower then some (.range a.toUpper b.toUpper)
      else if a.isUpper && b.isUpper then some (.range a.toLower b.toLower)
      else none
    | .named "upper" => some (.named "lower")
    | .named "lower" => some (.named "upper")
    | .named _ => none

def setAt : Read Regex := do
  let r ← get
  let (negated, cs) := match r.rest with
    | '^' :: cs => (true, cs)
    | cs => (false, cs)
  match Shell.setMembers (2 * cs.length + 2) true (cs.map fun c => (c, c == '\\')) with
  | none => throw "Unmatched [, [^, [:, [., or [="
  | some (ms, rest) =>
    set { r with rest := (rest : Shell.Marked).map Prod.fst }
    return .oneOf negated (if s.ignoresCase then bothCases ms else ms)

/-- An operator that stands at the front of what is still to be read, by its character; in one spelling
it is behind a backslash. -/
def operatorAt (cs : Octets) : Option (Char × Octets) :=
  if s.extended then
    match cs with
    | c :: cs => if "()|+?\x7b\x7d".toList.contains c then some (c, cs) else none
    | [] => none
  else
    match cs with
    | '\\' :: c :: cs => if "()|+?\x7b\x7d".toList.contains c then some (c, cs) else none
    | _ => none

/-- The bounds of a repetition behind their brace. -/
def boundsAt : Read (Nat × Option Nat) := do
  let r ← get
  let low := r.rest.takeWhile Char.isDigit
  let rest := r.rest.drop low.length
  let (most, rest) ← match rest with
    | ',' :: rest =>
      let high := rest.takeWhile Char.isDigit
      pure (if high.isEmpty then none else some (Shell.valueInBase 10 high), rest.drop high.length)
    | rest => pure (some (Shell.valueInBase 10 low), rest)
  match operatorAt s rest with
  | some ('\x7d', rest) =>
    set { r with rest }
    return (Shell.valueInBase 10 low, most)
  | _ => throw "Invalid content of \\\x7b\\\x7d"

/-- Repetitions behind an expression. -/
def repetitions : Nat → Regex → Read Regex
  | 0, e => return e
  | fuel + 1, e => do
    let r ← get
    match r.rest with
    | '*' :: rest =>
      set { r with rest }
      repetitions fuel (.repeated e 0 none)
    | cs =>
      match operatorAt s cs with
      | some ('+', rest) =>
        set { r with rest }
        repetitions fuel (.repeated e 1 none)
      | some ('?', rest) =>
        set { r with rest }
        repetitions fuel (.repeated e 0 (some 1))
      | some ('\x7b', rest) =>
        set { r with rest }
        let (least, most) ← boundsAt s
        repetitions fuel (.repeated e least most)
      | _ => return e

mutual

/-- Alternatives, up to a closing bracket. -/
def alternatives : Nat → Read Regex
  | 0 => throw "Regular expression too big"
  | fuel + 1 => do
    let a ← branch fuel true .empty
    let r ← get
    match operatorAt s r.rest with
    | some ('|', rest) =>
      set { r with rest }
      return .either a (← alternatives fuel)
    | _ => return a

/-- Expressions one behind the other. -/
def branch : Nat → Bool → Regex → Read Regex
  | 0, _, _ => throw "Regular expression too big"
  | fuel + 1, first, before => do
    let r ← get
    match r.rest with
    | [] => return before
    | c :: rest =>
      match operatorAt s r.rest with
      | some ('|', _) => return before
      | some (')', after) =>
        if s.extended && r.groups = 0 then
          set { r with rest := after }
          branch fuel false (.sequence before (.char ')'))
        else return before
      | _ =>
        if first && c = '*' then
          set { r with rest }
          let e ← if s.extended then pure .empty else repetitions s fuel (.char '*')
          branch fuel false (.sequence before e)
        else
          let e ← atom fuel first
          let isAnchor := match e with
            | .start => true
            | _ => false
          let e ← if isAnchor && !s.extended then pure e else repetitions s fuel e
          branch fuel (isAnchor && !s.extended) (.sequence before e)

/-- One expression without repetitions. -/
def atom : Nat → Bool → Read Regex
  | 0, _ => throw "Regular expression too big"
  | fuel + 1, first => do
    let r ← get
    match operatorAt s r.rest with
    | some ('(', rest) =>
      let number := r.groups + 1
      set (⟨rest, number⟩ : Reading)
      let e ← alternatives fuel
      let r ← get
      match operatorAt s r.rest with
      | some (')', rest) =>
        set { r with rest }
        return .group number e
      | _ => throw "Unmatched ( or \\("
    | _ =>
      match r.rest with
      | [] => return .empty
      | c :: rest =>
        set { r with rest }
        match c with
        | '.' => return .any
        | '[' => setAt s
        | '^' => return if s.extended || first then .start else .char '^'
        | '$' =>
          let ends := s.extended || rest.isEmpty ||
            (match operatorAt s rest with
              | some (')', _) | some ('|', _) => true
              | _ => false)
          return if ends then .finish else .char '$'
        | '\\' =>
          match rest with
          | [] => throw "Trailing backslash"
          | d :: rest =>
            set { r with rest }
            match d with
            | 'n' => return .char '\n'
            | 't' => return .char '\t'
            | 'w' => return .oneOf false [.named "alnum", .range '_' '_']
            | 'W' => return .oneOf true [.named "alnum", .range '_' '_']
            | 's' => return .oneOf false [.named "space"]
            | 'S' => return .oneOf true [.named "space"]
            | '<' => return .wordStart
            | '>' => return .wordFinish
            | 'b' => return .wordEdge true
            | 'B' => return .wordEdge false
            | d =>
              if d.isDigit && d != '0' then return .again (Shell.digitOf d)
              else return letter s d
        | c => return letter s c

end

/-- The expression of a text. -/
def ofText (text : Octets) : Except String Regex := do
  let (e, r) ← (alternatives s (4 * text.length + 8)).run ⟨text, 0⟩
  if r.rest.isEmpty then return e else throw "Unmatched ) or \\)"

end Regex

end DevServer.Program
