import DevServer.Shell.Syntax

/-!
# Reading scripts

A script is read character by character. An alias puts its text in front of what is still to be
read, and is not looked up again in its own text. The text of a here-document follows the line that
asks for it, so such documents are kept by number.
-/

namespace DevServer.Shell

open Text (Octets)

/-- Why a script cannot be read, and in which line. -/
structure Mistake where
  line : Nat
  text : String
  deriving DecidableEq, Repr

inductive Token where
  | word (w : Word) (quoted : Bool)
  | redirect (descriptor : Option Nat) (operator : String)
  | operator (text : String)
  | keyword (text : String)
  | lineEnd
  | textEnd

/-- A here-document whose text is still to come. -/
structure Awaited where
  number : Nat
  finish : Octets
  /-- Whether its text stands for itself. -/
  literal : Bool
  /-- Whether tabs in front of its lines are dropped. -/
  indented : Bool
  deriving DecidableEq, Repr

/-- An alias whose text is being read. -/
structure Expanding where
  name : Octets
  /-- How many characters are left behind its text. -/
  behind : Nat
  /-- Whether the next word is looked up too. -/
  goesOn : Bool
  deriving DecidableEq, Repr

/-- A script that is being read. -/
structure Source where
  rest : Octets
  /-- The length of `rest`. -/
  left : Nat
  line : Nat
  aliases : List (Octets × Octets)
  expanding : List Expanding
  /-- Whether an alias that has just ended asks for the next word to be looked up. -/
  lookUp : Bool
  /-- A token that has been put back. -/
  back : Option Token
  awaited : List Awaited
  documents : List (Nat × Word)
  /-- How many documents have been asked for. -/
  asked : Nat

abbrev Parse := StateT Source (Except Mistake)

namespace Source

def ofText (line : Nat) (text : Octets) : Source :=
  ⟨text, text.length, line, [], [], false, none, [], [], 0⟩

/-- Aliases whose text has been read are no longer being expanded. -/
def leaveAliases (s : Source) : Source :=
  let (ended, going) := s.expanding.partition fun e => s.left ≤ e.behind
  if ended.isEmpty then s
  else { s with expanding := going, lookUp := s.lookUp || ended.any (·.goesOn) }

/-- A text is read before the rest. -/
def putAlias (s : Source) (name text : Octets) : Source :=
  let goesOn := text.getLast?.any fun c => c == ' ' || c == '\t'
  { s with
    rest := text ++ s.rest
    left := s.left + text.length
    expanding := ⟨name, s.left, goesOn⟩ :: s.expanding }

def drop (s : Source) : Source :=
  match s.rest with
  | [] => s
  | c :: rest =>
    { s with rest, left := s.left - 1, line := if c = '\n' then s.line + 1 else s.line }

end Source

namespace Parse

def fault {A : Type} (text : String) : Parse A := do throw ⟨(← get).line, "Syntax error: " ++ text⟩

/-- The next character, which stays where it is. -/
def peek : Parse (Option Char) := do
  modify Source.leaveAliases
  return (← get).rest.head?

/-- Takes the next character. -/
def next : Parse (Option Char) := do
  let c ← peek
  modify Source.drop
  return c

/-- Drops line ends behind backslashes. -/
def joinLines : Nat → Parse Unit
  | 0 => pure ()
  | fuel + 1 => do
    match (← get).rest with
    | '\\' :: '\n' :: _ =>
      modify fun s => s.drop.drop
      joinLines fuel
    | _ => pure ()

/-- The next character behind joined lines. -/
def peekJoined : Parse (Option Char) := do
  let _ ← peek
  joinLines (← get).left
  peek

def nextJoined : Parse (Option Char) := do
  let _ ← peekJoined
  next

/-- Takes a character if it comes next. -/
def takes (c : Char) : Parse Bool := do
  if (← peekJoined) == some c then
    let _ ← next
    return true
  else return false

/-- Takes characters as long as they are of some kind. -/
def takeWhile (p : Char → Bool) : Nat → Parse Octets
  | 0 => pure []
  | fuel + 1 => do
    match ← peekJoined with
    | some c =>
      if p c then
        let _ ← next
        return c :: (← takeWhile p fuel)
      else return []
    | none => return []

/-- Takes what stands before a character, and the character. -/
def takeThrough (finish : Char) : Parse (Option Octets) := do
  let s ← get
  let text := s.rest.takeWhile (· != finish)
  if text.length = s.left then return none
  let lines := (text.filter (· == '\n')).length
  set { s with
    rest := s.rest.drop (text.length + 1)
    left := s.left - text.length - 1
    line := s.line + lines + (if finish = '\n' then 1 else 0) }
  return some text

def putBack (t : Token) : Parse Unit := modify fun s => { s with back := some t }

end Parse

/-! ### Words that are read apart -/

/-- Words that are part of compound commands. -/
def keywords : List String := ["!", "case", "do", "done", "elif", "else", "esac", "fi", "for", "if",
  "in", "then", "until", "while", "\x7b", "\x7d"]

/-- How a token is named in a mistake. -/
def Token.describe : Token → String
  | .word _ _ => "word"
  | .redirect _ _ => "redirection"
  | .operator text | .keyword text => s!"\"{text}\""
  | .lineEnd => "newline"
  | .textEnd => "end of file"

def Token.isOperator (t : Token) (text : String) : Bool :=
  match t with
  | .operator s => s == text
  | _ => false

def Token.isKeyword (t : Token) (text : String) : Bool :=
  match t with
  | .keyword s => s == text
  | _ => false

/-- Refuses a token, and says what would have been right. -/
def unexpected {A : Type} (t : Token) (instead : Option String) : Parse A :=
  let wanted := instead.elim "" fun s => s!" (expecting {s})"
  Parse.fault (t.describe ++ " unexpected" ++ wanted)

end DevServer.Shell
