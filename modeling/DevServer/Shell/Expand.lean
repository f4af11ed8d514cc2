import DevServer.Shell.Arithmetic
import DevServer.Shell.Pattern
import DevServer.Shell.Session

/-!
# Expansion

What a word stands for when its command is run. Its parts come to marks, which are characters with
what is to be known about them; where a command takes several arguments the marks are cut into
fields, and fields that are patterns become the names of the files that they match. How the output
of a command is had is a parameter here.
-/

namespace DevServer.Shell

open Process (Request Routine)
open Text (Octets)

/-- What the parts of a word come to. -/
inductive Mark where
  /-- A `loose` character can be a separator of fields. -/
  | char (c : Char) (quoted loose : Bool)
  /-- A field ends here; if not `always`, only one that has begun. -/
  | cut (always : Bool)
  /-- There is a field here, even an empty one. -/
  | quotes
  deriving DecidableEq, Repr

abbrev Marks := List Mark

namespace Mark

def ofText (quoted loose : Bool) (s : Octets) : Marks := s.map fun c => char c quoted loose

/-- A value, which is cut unless it is quoted. -/
def ofValue (quoted : Bool) (s : Octets) : Marks := ofText quoted (!quoted) s

def text (ms : Marks) : Octets :=
  ms.filterMap fun
    | char c _ _ => some c
    | _ => none

def marked (ms : Marks) : Marked :=
  ms.filterMap fun
    | char c quoted _ => some (c, quoted)
    | _ => none

end Mark

/-! ### Parameters -/

def joined (ss : List Octets) : Octets := [' '].intercalate ss

/-- The value of a parameter, if it is set. -/
def parameter? (name : Octets) : Sh (Option Octets) := do
  let s ← get
  match name with
  | ['?'] => return some (digits s.status)
  | ['$'] => return some (digits s.number)
  | ['#'] => return some (digits s.arguments.length)
  | ['!'] => return s.last.map digits
  | ['-'] => return some (s.options.filter (' ' < ·)).reverse
  | c :: _ =>
    if c.isDigit then
      match valueInBase 10 name with
      | 0 => return some s.name
      | n + 1 => return s.arguments[n]?
    else Sh.valueOf? name
  | [] => return none

/-- What stands between arguments that are put together. -/
def joiner : Sh Octets := do
  match ← Sh.valueOf? "IFS".toList with
  | some separators => return separators.take 1
  | none => return [' ']

/-- The marks of all arguments. -/
def argumentMarks (name : Octets) (quoted splits : Bool) (args : List Octets) : Sh Marks := do
  if splits && !(quoted && name == ['*']) then
    if quoted then
      return if args.isEmpty then []
        else .quotes :: [Mark.cut true].intercalate (args.map (Mark.ofText true false))
    else return [Mark.cut false].intercalate (args.map (Mark.ofText false true))
  else return Mark.ofValue quoted ((← joiner).intercalate args)

def isAllArguments (name : Octets) : Bool := name == ['@'] || name == ['*']

/-! ### Home directories -/

/-- The home directory of a user, or one's own for no name. -/
def homeOf (user : Octets) : Sh (Option Octets) := do
  match String.ofList user with
  | "" => Sh.valueOf? "HOME".toList
  | "root" => return some "/root".toList
  | _ => return none

/-- The marks of a tilde in front of a text, and how much of it they stand for. The name of the user
must end in the text, or with it if nothing follows. -/
def tildeAt (assigning followed : Bool) (text : Octets) : Sh (Option (Marks × Nat)) := do
  match text with
  | '~' :: rest =>
    let user := rest.takeWhile fun c => c != '/' && !(assigning && c == ':')
    if user.length = rest.length && followed then return none
    match ← homeOf user with
    | some home => return some (Mark.ofText true false home, user.length + 1)
    | none => return none
  | _ => return none

/-- The marks of plain text in which tildes stand for home directories: in front where `first`, and
in an assignment also behind colons. -/
def tildeMarks (loose assigning followed : Bool) : Nat → Bool → Octets → Sh Marks
  | 0, _, _ => return []
  | fuel + 1, first, text => do
    let found ← if first then tildeAt assigning followed text else pure none
    let (front, text) := match found with
      | some (ms, n) => (ms, text.drop n)
      | none => ([], text)
    let isLast (c : Char) : Bool := assigning && c == ':'
    let run := text.takeWhile (!isLast ·)
    match text.drop run.length with
    | c :: rest =>
      let more ← tildeMarks loose assigning followed fuel true rest
      return front ++ Mark.ofText false loose (run ++ [c]) ++ more
    | [] => return front ++ Mark.ofText false loose run

/-! ### Words -/

/-- How a word is expanded. -/
structure Expansion where
  /-- Whether it is cut into fields. -/
  splits : Bool
  /-- Whether it is the value of an assignment. -/
  assigning : Bool
  /-- Whether its own text can be cut. -/
  loose : Bool
  /-- Whether tildes are looked for. -/
  tildes : Bool
  deriving DecidableEq, Repr

namespace Expansion

/-- Arguments of a command. -/
def argument : Expansion := ⟨true, false, false, true⟩

/-- The value of an assignment. -/
def value : Expansion := ⟨false, true, false, true⟩

/-- One text. -/
def text : Expansion := ⟨false, false, false, true⟩

/-- Text in quotes. -/
def quoted : Expansion := ⟨false, false, false, false⟩

end Expansion

/-- What is said of a parameter that has no value. -/
def unsetText (name : Octets) (filled : Bool) (said : Octets) : Octets :=
  name ++ ": ".toList ++
    if !said.isEmpty then said
    else "parameter not set".toList ++ (if filled then " or null".toList else [])

/-- The value of an expression, whose assignments are made. -/
def calculate (expression : Octets) : Sh Int := do
  let s ← get
  let value (name : Octets) : Octets := ((s.bindings.lookup name).bind (·.value)).getD []
  match arithmetic value expression with
  | .ok (n, assigned) =>
    for (name, m) in assigned.reverse do Sh.assign name (numberText m)
    return n
  | .error (.malformed text) =>
    Sh.fail ("arithmetic expression: ".toList ++ text.toList ++ ": \"".toList ++ expression ++ ['"'])
  | .error (.notNumber text) => Sh.fail ("Illegal number: ".toList ++ text)

/-- Taking the output of a command. -/
abbrev Substitution := Command → Sh Octets

/-- What the parts of a word come to. -/
def expandParts (run : Substitution) : Nat → Expansion → Bool → List Part → Sh Marks
  | 0, _, _, _ => return []
  | _ + 1, _, _, [] => return []
  | fuel + 1, e, first, p :: ps => do
    let this : Marks ← match p with
      | .plain text quoted =>
        if quoted then pure (Mark.ofText true false text)
        else if e.tildes then
          tildeMarks e.loose e.assigning (!ps.isEmpty) (text.length + 1) first text
        else pure (Mark.ofText false e.loose text)
      | .quotes => pure [.quotes]
      | .output c quoted => do pure (Mark.ofValue quoted (← run c))
      | .number expression quoted => do
        let ms ← expandParts run fuel .quoted false expression
        pure (Mark.ofValue quoted (numberText (← calculate (Mark.text ms))))
      | .parameter name operation word quoted => do
        let args := (← get).arguments
        let all := isAllArguments name
        let value ← if all then do pure (some ((← joiner).intercalate args)) else parameter? name
        let shown : Sh Marks :=
          if all then argumentMarks name quoted e.splits args
          else return Mark.ofValue quoted (value.getD [])
        let inner : Sh Marks := expandParts run fuel
          { e with loose := !quoted, tildes := !quoted, assigning := e.assigning } true word
        let isSet (filled : Bool) : Bool := value.any fun v => !(filled && v.isEmpty)
        let checked : Sh Unit := do
          if (← Sh.hasOption 'u') && value.isNone && !all then
            Sh.fail (unsetText name false [])
        match operation with
        | .bad => Sh.fail "Bad substitution".toList
        | .value => do
          checked
          shown
        | .length => do
          checked
          pure (Mark.ofValue quoted (digits (value.getD []).length))
        | .otherwise filled => if isSet filled then shown else inner
        | .alternative filled => if isSet filled then inner else pure []
        | .assigned filled => do
          if isSet filled then shown
          else
            let text := Mark.text (← expandParts run fuel
              { e with splits := false, tildes := !quoted } true word)
            Sh.checkName name
            Sh.assign name text
            pure (Mark.ofValue quoted text)
        | .required filled => do
          if isSet filled then shown
          else Sh.fail (unsetText name filled (Mark.text (← inner)))
        | .trimmed front longest => do
          checked
          let pattern := globOf (Mark.marked (← expandParts run fuel
            { e with splits := false, tildes := true, loose := false } true word))
          let text := value.getD []
          let rest := if front then cutFront longest pattern text else cutBack longest pattern text
          pure (Mark.ofValue quoted rest)
    let more ← expandParts run fuel e false ps
    return this ++ more

/-- Parts of one word are at most this many times nested. -/
def expansionDepth : Nat := 100000

def expand (run : Substitution) (e : Expansion) (w : Word) : Sh Marks :=
  expandParts run expansionDepth e true w

/-- The text of a word that is not cut into fields. -/
def expandText (run : Substitution) (e : Expansion) (w : Word) : Sh Octets :=
  return Mark.text (← expand run e w)

/-- The pattern of a word. -/
def expandPattern (run : Substitution) (w : Word) : Sh (List Glob) :=
  return globOf (Mark.marked (← expand run .text w))

/-! ### Fields -/

/-- Separators of which any number count as one. -/
def isBlankSeparator (c : Char) : Bool := c == ' ' || c == '\t' || c == '\n'

/-- Fields that are being put together, the last first, each with its last character first. -/
structure Cutting where
  done : List Marked
  /-- The field that has begun. -/
  begun : Option Marked
  /-- Whether only blanks have come since the last field. -/
  blankBehind : Bool

namespace Cutting

def add (k : Cutting) (c : Char) (quoted : Bool) : Cutting :=
  { k with begun := some ((c, quoted) :: k.begun.getD []) }

/-- Ends the field that has begun at a separator; two separators that are not blank have an empty
field between them. -/
def separate (k : Cutting) (c : Char) : Cutting :=
  let blank := isBlankSeparator c
  match k.begun with
  | some f => ⟨f :: k.done, none, blank⟩
  | none =>
    if blank then k
    else if k.blankBehind then { k with blankBehind := false }
    else { k with done := [] :: k.done }

def addMark (separators : Octets) (k : Cutting) : Mark → Cutting
  | .char c quoted loose =>
    if loose && separators.contains c then k.separate c else k.add c quoted
  | .quotes => { k with begun := some (k.begun.getD []) }
  | .cut true => ⟨k.begun.getD [] :: k.done, some [], false⟩
  | .cut false =>
    match k.begun with
    | some f => ⟨f :: k.done, none, true⟩
    | none => k

def toList (k : Cutting) : List Marked := (k.begun.toList ++ k.done).reverse.map List.reverse

end Cutting

def fieldsOf (separators : Octets) (ms : Marks) : List Marked :=
  (ms.foldl (Cutting.addMark separators) ⟨[], none, false⟩).toList

/-! ### Names of files -/

/-- A pattern for a path, cut at its slashes. -/
def slashCut : Marked → List Marked
  | [] => [[]]
  | (c, quoted) :: rest =>
    if c = '/' then [] :: slashCut rest
    else match slashCut rest with
      | first :: more => ((c, quoted) :: first) :: more
      | [] => [[(c, quoted)]]

/-- The text of a part of a pattern that stands only for itself. -/
def plainOf (gs : List Glob) : Octets :=
  gs.filterMap fun
    | .char c => some c
    | _ => none

/-- The paths that begin with some text and go on as the parts of a pattern ask for. -/
def matchPaths : Octets → List Marked → Sh (List Octets)
  | _, [] => return []
  | before, [part] => do
    let gs := globOf part
    if !isPattern gs then
      let path := before ++ plainOf gs
      match ← Sh.ask (.status path false) with
      | .ok _ => return [path]
      | .error _ => return []
    else
      let directory : Octets := if before.isEmpty then ['.'] else before
      match ← Sh.ask (.list directory) with
      | .ok names =>
        let names := if gs.head? == some (.char '.') then [['.'], ['.', '.']] ++ names else names
        return (names.filter (globMatchesName gs)).map (before ++ ·)
      | .error _ => return []
  | before, part :: parts => do
    let gs := globOf part
    if !isPattern gs then matchPaths (before ++ plainOf gs ++ ['/']) parts
    else
      let directory : Octets := if before.isEmpty then ['.'] else before
      match ← Sh.ask (.list directory) with
      | .ok names =>
        let found ← (names.filter (globMatchesName gs)).mapM fun name => do
          let path := before ++ name
          match ← Sh.ask (.status path true) with
          | .ok status =>
            if status.isDirectory then matchPaths (path ++ ['/']) parts else return []
          | .error _ => return []
        return found.flatten
      | .error _ => return []

/-- What is only a pattern's text without the backslashes that hide characters in it. -/
def fieldText (f : Marked) : Octets := f.map (·.1)

/-- The order of bytes. -/
def byBytes (a b : Octets) : Bool := Path.compareBytes a.toBytes b.toBytes != .gt

/-- The names of the files that a field matches, or else the field itself. -/
def fileNames (f : Marked) : Sh (List Octets) := do
  let isOpen (c : Char × Bool) : Bool := !c.2 && (c.1 == '*' || c.1 == '?' || c.1 == '[')
  if (← Sh.hasOption 'f') || !f.any isOpen then return [fieldText f]
  match ← matchPaths [] (slashCut f) with
  | [] => return [fieldText f]
  | paths => return paths.mergeSort byBytes

/-- The fields of a word. -/
def fields (run : Substitution) (w : Word) : Sh (List Octets) := do
  let cut := fieldsOf (← Sh.separators) (← expand run .argument w)
  return (← cut.mapM fileNames).flatten

/-- The fields of some words. -/
def allFields (run : Substitution) (ws : List Word) : Sh (List Octets) := do
  return (← ws.mapM (fields run)).flatten

end DevServer.Shell
