import DevServer.Text.Octets

/-!
# Shell scripts

Scripts are commands that are made of words. A word has parts that are taken as they are and parts
that stand for something else; what such a part stands for may be given by another script.
-/

namespace DevServer.Shell

open Text (Octets)

/-- What is done with the value of a parameter. -/
inductive Operation where
  | value
  | length
  /-- Something else is taken where there is no value; where `filled`, an empty value is none. -/
  | otherwise (filled : Bool)
  /-- Something else is taken where there is a value. -/
  | alternative (filled : Bool)
  /-- Where there is no value, one is assigned. -/
  | assigned (filled : Bool)
  /-- Where there is no value, that is a mistake. -/
  | required (filled : Bool)
  /-- The shortest or the longest part that a pattern matches is cut off, in front or at the end. -/
  | trimmed (front longest : Bool)
  /-- What stands in the braces is no operation. -/
  | bad
  deriving DecidableEq, Repr

inductive Direction where
  | input
  | output
  /-- Like `output`, also where files must not be overwritten. -/
  | overwrite
  | append
  | both
  /-- The same as another descriptor, or closed. -/
  | copy
  deriving DecidableEq, Repr

mutual

inductive Part where
  | plain (text : Octets) (quoted : Bool)
  /-- Quotes stand here, if only around nothing. -/
  | quotes
  | parameter (name : Octets) (operation : Operation) (word : List Part) (quoted : Bool)
  /-- What a command writes. -/
  | output (c : Command) (quoted : Bool)
  | number (expression : List Part) (quoted : Bool)

inductive Redirection where
  | file (descriptor : Nat) (direction : Direction) (target : List Part)
  /-- The input is text from the script, which is known by its number. -/
  | document (descriptor number : Nat)

/-- A command with at most one program. `line` is where it stands. -/
inductive Command where
  | simple (line : Nat) (assignments : List (Octets × List Part)) (words : List (List Part))
      (redirections : List Redirection)
  | redirected (line : Nat) (c : Command) (redirections : List Redirection)
  | nothing
  | sequence (first second : Command)
  /-- The second runs if the first succeeds. -/
  | also (first second : Command)
  /-- The second runs if the first fails. -/
  | otherwise (first second : Command)
  | negated (c : Command)
  | pipe (parts : List Command)
  | background (line : Nat) (c : Command)
  | apart (line : Nat) (c : Command) (redirections : List Redirection)
  | branch (test yes no : Command)
  /-- Runs `body` as long as `test` succeeds, or fails if `until_`. -/
  | repeated (until_ : Bool) (test body : Command)
  | each (line : Nat) (name : Octets) (words : List (List Part)) (body : Command)
  /-- Runs the first body that has a pattern for the word. -/
  | choice (line : Nat) (word : List Part) (cases : List (List (List Part) × Command))
  | definition (line : Nat) (name : Octets) (body : Command)

end

abbrev Word := List Part

/-- The arguments, each as a field of its own. -/
def allArguments : Word := [.parameter ['@'] .value [] true]

/-- The text of a word without quotes and without anything that stands for something else. -/
def Word.plain? (w : Word) : Option Octets :=
  (w.mapM fun p =>
    match p with
    | Part.plain text false => some text
    | _ => none).map List.flatten

/-! ### Names -/

def beginsName (c : Char) : Bool := c.isAlpha || c == '_'

def isNameChar (c : Char) : Bool := c.isAlphanum || c == '_'

def isName (s : Octets) : Bool := s.head?.any beginsName && s.all isNameChar

/-- Parameters that have one character for their name and are no names. -/
def isSpecial (c : Char) : Bool := "?$#@*!-0123456789".toList.contains c

end DevServer.Shell
