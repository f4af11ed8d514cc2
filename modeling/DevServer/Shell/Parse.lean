import DevServer.Shell.Source

/-!
# Reading commands

Words, tokens and commands are read in one recursion, since a word can hold commands. The recursion
is bounded by the length of the script. A script is read line by line, so what stands before a
mistake is run.
-/

namespace DevServer.Shell

open Text (Octets)

/-- Where the parts of a word stand. -/
inductive Mode where
  | word
  /-- The word that ends a here-document, in which nothing stands for something else. -/
  | mark
  /-- In the braces of a parameter, in quotes or not. -/
  | braces (quoted : Bool)
  | quotes
  /-- In a number, with so many brackets open. -/
  | number (opened : Nat)
  | document
  deriving DecidableEq, Repr

namespace Mode

/-- Characters that end a word where they are not quoted. -/
def endsWord (c : Char) : Bool := " \t\n;&|<>()".toList.contains c

/-- Whether what stands here is quoted. -/
def isQuoted : Mode → Bool
  | word | mark | braces false => false
  | braces true | quotes | number _ | document => true

/-- Whether a character is no more than itself. -/
def isOrdinary (m : Mode) (c : Char) : Bool :=
  match m with
  | word => !(endsWord c || "'\"\\$`".toList.contains c)
  | mark => !(endsWord c || "'\"\\".toList.contains c)
  | braces false => !"'\"\\$`\x7d".toList.contains c
  | braces true => !"\"\\$`\x7d".toList.contains c
  | quotes => !"\"\\$`".toList.contains c
  | number _ => !"\\$`()".toList.contains c
  | document => !"\\$`".toList.contains c

/-- Whether a backslash takes the meaning of a character away. -/
def isEscaped (m : Mode) (c : Char) : Bool :=
  match m with
  | word | mark | braces false => true
  | braces true => "\\$`\"\x7d".toList.contains c
  | quotes => "\\$`\"".toList.contains c
  | number _ => "\\$`\"".toList.contains c
  | document => "\\$`".toList.contains c

end Mode

/-- A backquoted text without the backslashes that hide its end. -/
def withoutHiding (quoted : Bool) : Octets → Octets
  | '\\' :: c :: cs =>
    if "\\`$".toList.contains c || (quoted && c == '"') then c :: withoutHiding quoted cs
    else '\\' :: c :: withoutHiding quoted cs
  | c :: cs => c :: withoutHiding quoted cs
  | [] => []

/-- The text up to a backquote that is not hidden, and what is left behind it. -/
def untilBackquote : Octets → Option (Octets × Octets)
  | [] => none
  | '`' :: cs => some ([], cs)
  | '\\' :: c :: cs => (untilBackquote cs).map fun (s, rest) => ('\\' :: c :: s, rest)
  | c :: cs => (untilBackquote cs).map fun (s, rest) => (c :: s, rest)

/-- The name and the value, if a word assigns one. -/
def Word.assignment? (w : Word) : Option (Octets × Word) :=
  match w with
  | .plain text false :: rest =>
    let name := text.takeWhile (· != '=')
    match text.drop name.length with
    | _ :: value =>
      if isName name then
        some (name, if value.isEmpty then rest else .plain value false :: rest)
      else none
    | [] => none
  | _ => none

/-- The text of a word without its quotes, and whether there were any. -/
def Word.bare (w : Word) : Octets × Bool :=
  (w.flatMap fun p =>
    match p with
    | .plain text _ => text
    | _ => [],
  w.any fun p =>
    match p with
    | .plain _ quoted => quoted
    | .quotes => true
    | _ => false)

/-- Words that end a list of commands. -/
def closesList (t : Token) : Bool :=
  match t with
  | .keyword s => ["then", "else", "elif", "fi", "do", "done", "esac", "\x7d"].contains s
  | .operator s => s == ")" || s == ";;"
  | .textEnd => true
  | _ => false

/-- The lines of a here-document. Where backslashes join lines, a joined line does not end it. -/
def documentLines (d : Awaited) : Nat → Bool → Parse Octets
  | 0, _ => pure []
  | fuel + 1, joined => do
    if (← get).left = 0 then return []
    let line ← match ← Parse.takeThrough '\n' with
      | some line => pure (line ++ ['\n'])
      | none =>
        let s ← get
        set { s with rest := [], left := 0 }
        pure s.rest
    let line := if d.indented then line.dropWhile (· == '\t') else line
    let bare := if line.getLast? = some '\n' then line.dropLast else line
    if bare = d.finish && !joined then
      if line.getLast? != some '\n' then
        modify fun s => { s with line := s.line + 1 }
      return []
    let slashes := (bare.reverse.takeWhile (· == '\\')).length
    return line ++ (← documentLines d fuel (!d.literal && slashes % 2 = 1))

def redirectionOf (descriptor : Option Nat) (operator : String) (target : Word) : Redirection :=
  let (direction, usual) : Direction × Nat := match operator with
    | "<" => (.input, 0)
    | "<>" => (.both, 0)
    | "<&" => (.copy, 0)
    | ">>" => (.append, 1)
    | ">|" => (.overwrite, 1)
    | ">&" => (.copy, 1)
    | _ => (.output, 1)
  .file (descriptor.getD usual) direction target

/-- Functions cannot have these names. -/
def reservedCommands : List String := [".", ":", "break", "continue", "eval", "exec", "exit",
  "export", "readonly", "return", "set", "shift", "times", "trap", "unset"]

open Parse

mutual

/-- The parts of a word, up to what ends it. -/
def parseParts : Nat → Mode → Parse (List Part)
  | 0, _ => fault "word too long"
  | fuel + 1, mode => do
    let quoted := mode.isQuoted
    let more (front : List Part) : Parse (List Part) := do
      return front ++ (← parseParts fuel mode)
    match ← peek with
    | none =>
      match mode with
      | .word | .mark | .document => return []
      | .quotes => fault "Unterminated quoted string"
      | .braces _ => fault "Missing '\x7d'"
      | .number _ => fault "Missing '))'"
    | some c =>
      if mode.isOrdinary c then
        let s ← get
        let limit := (s.expanding.map (·.behind)).foldl max 0
        let run := (s.rest.take (s.left - limit)).takeWhile mode.isOrdinary
        let lines := (run.filter (· == '\n')).length
        set { s with
          rest := s.rest.drop run.length, left := s.left - run.length, line := s.line + lines }
        match ← parseParts fuel mode with
        | .plain text q :: rest =>
          return if q = quoted then .plain (run ++ text) q :: rest
            else .plain run quoted :: .plain text q :: rest
        | rest => return .plain run quoted :: rest
      else if (mode = .word || mode = .mark) && Mode.endsWord c then return []
      else
        let _ ← next
        match c with
        | '\\' =>
          match ← next with
          | none => more [.plain ['\\'] quoted]
          | some '\n' => more []
          | some d => more [.plain (if mode.isEscaped d then [d] else ['\\', d]) true]
        | '\'' =>
          match ← takeThrough '\'' with
          | some text => more [.quotes, .plain text true]
          | none => fault "Unterminated quoted string"
        | '"' =>
          if mode = .quotes then return []
          else
            match ← parseParts fuel .quotes with
            | [.parameter ['@'] .value [] true] => more allArguments
            | inner => more (.quotes :: inner)
        | '$' => more [← parseDollar fuel mode]
        | '`' => more [← parseBackquoted fuel quoted]
        | '\x7d' => return []
        | '(' =>
          match mode with
          | .number n =>
            return .plain ['('] true :: (← parseParts fuel (.number (n + 1)))
          | _ => more [.plain ['('] quoted]
        | ')' =>
          match mode with
          | .number (n + 1) => return .plain [')'] true :: (← parseParts fuel (.number n))
          | .number 0 =>
            if ← takes ')' then return [] else more [.plain [')'] true]
          | _ => more [.plain [')'] quoted]
        | c => more [.plain [c] quoted]

/-- What a dollar sign begins. -/
def parseDollar : Nat → Mode → Parse Part
  | 0, _ => fault "word too long"
  | fuel + 1, mode => do
    let quoted := mode.isQuoted
    match ← peekJoined with
    | some '(' =>
      let _ ← next
      if ← takes '(' then return .number (← parseParts fuel (.number 0)) quoted
      else
        let s ← get
        set { s with awaited := [] }
        let c ← parseList fuel 2 none
        let t ← parseToken fuel false false false
        if !t.isOperator ")" then unexpected t (some "\")\"")
        modify fun after => { after with awaited := s.awaited }
        return .output (c.getD .nothing) quoted
    | some '\x7b' =>
      let _ ← next
      parseBraces fuel mode
    | some c =>
      if beginsName c then
        return .parameter (← takeWhile isNameChar (← get).left) .value [] quoted
      else if isSpecial c then
        let _ ← next
        return .parameter [c] .value [] quoted
      else return .plain ['$'] quoted
    | none => return .plain ['$'] quoted

/-- A parameter in braces, with what is done with its value. -/
def parseBraces : Nat → Mode → Parse Part
  | 0, _ => fault "word too long"
  | fuel + 1, mode => do
    let quoted := mode.isQuoted
    let bad : Parse Part := do
      return .parameter [] .bad (← parseParts fuel (.braces quoted)) quoted
    let nameAt (c : Char) : Parse Octets := do
      if beginsName c then takeWhile isNameChar (← get).left
      else if c.isDigit then takeWhile Char.isDigit (← get).left
      else
        let _ ← nextJoined
        return [c]
    let operated (name : Octets) : Parse Part := do
      let with_ (op : Operation) : Parse Part := do
        return .parameter name op (← parseParts fuel (.braces quoted)) quoted
      let sign (filled : Bool) : Option Char → Parse Part
        | some '-' => with_ (.otherwise filled)
        | some '+' => with_ (.alternative filled)
        | some '=' => with_ (.assigned filled)
        | some '?' => with_ (.required filled)
        | some '\x7d' => return .parameter name (if filled then .bad else .value) [] quoted
        | _ => bad
      match ← nextJoined with
      | some ':' => sign true (← nextJoined)
      | some '%' =>
        let longest ← takes '%'
        return .parameter name (.trimmed false longest) (← parseParts fuel (.braces false)) quoted
      | some '#' =>
        let longest ← takes '#'
        return .parameter name (.trimmed true longest) (← parseParts fuel (.braces false)) quoted
      | c => sign false c
    match ← peekJoined with
    | none => fault "Missing '\x7d'"
    | some '#' =>
      let _ ← next
      match (← peekJoined), (← get).rest.drop 1 with
      | some c, after =>
        if c == '_' || c.isAlphanum then
          let name ← nameAt c
          if ← takes '\x7d' then return .parameter name .length [] quoted else bad
        else if c != '\x7d' && after.head? == some '\x7d' then
          let _ ← next
          let _ ← next
          if isSpecial c then return .parameter [c] .length [] quoted else bad
        else operated ['#']
      | none, _ => operated ['#']
    | some c =>
      if beginsName c || isSpecial c then operated (← nameAt c) else bad

/-- A command between backquotes. -/
def parseBackquoted : Nat → Bool → Parse Part
  | 0, _ => fault "word too long"
  | fuel + 1, quoted => do
    let s ← get
    match untilBackquote s.rest with
    | none => fault "EOF in backquote substitution"
    | some (text, rest) =>
      let inner := withoutHiding quoted text
      set { s with
        rest := inner, left := inner.length, line := 1, awaited := [], expanding := [], back := none }
      let c ← parseList fuel 2 none
      let after ← get
      let lines := (text.filter (· == '\n')).length
      set { s with
        rest
        left := rest.length
        line := s.line + lines
        documents := after.documents
        asked := after.asked }
      return .output (c.getD .nothing) quoted

/-- The next token, as it stands. -/
def parseRaw : Nat → Bool → Parse Token
  | 0, _ => fault "script too long"
  | fuel + 1, mark => do
    let choose (c : Char) (double single : String) : Parse Token := do
      let _ ← next
      return .operator (if ← takes c then double else single)
    match ← peekJoined with
    | none => return .textEnd
    | some c =>
      match c with
      | ' ' | '\t' =>
        let _ ← next
        parseRaw fuel mark
      | '#' =>
        let s ← get
        let comment := s.rest.takeWhile (· != '\n')
        set { s with rest := s.rest.drop comment.length, left := s.left - comment.length }
        parseRaw fuel mark
      | '\n' =>
        let _ ← next
        return .lineEnd
      | '&' => choose '&' "&&" "&"
      | '|' => choose '|' "||" "|"
      | ';' => choose ';' ";;" ";"
      | '(' | ')' =>
        let _ ← next
        return .operator (String.singleton c)
      | '<' | '>' => parseArrow fuel none
      | c =>
        match (← get).rest with
        | _ :: d :: _ =>
          if c.isDigit && (d == '<' || d == '>') then
            let _ ← next
            return ← parseArrow fuel (some (c.toNat - '0'.toNat))
        | _ => pure ()
        let parts ← parseParts fuel (if mark then .mark else .word)
        return .word parts (Word.bare parts).2

/-- An operator that redirects. -/
def parseArrow : Nat → Option Nat → Parse Token
  | 0, _ => fault "script too long"
  | _ + 1, descriptor => do
    let c ← next
    let second ← peekJoined
    let operator : String := match c, second with
      | some '>', some '>' => ">>"
      | some '>', some '|' => ">|"
      | some '>', some '&' => ">&"
      | some '>', _ => ">"
      | _, some '<' => "<<"
      | _, some '&' => "<&"
      | _, some '>' => "<>"
      | _, _ => "<"
    if operator.length = 2 then
      let _ ← next
    if operator == "<<" then
      if ← takes '-' then return .redirect descriptor "<<-"
    return .redirect descriptor operator

/-- The next token. Line ends are skipped, keywords found and aliases looked up as is asked for. -/
def parseToken : Nat → Bool → Bool → Bool → Parse Token
  | 0, _, _, _ => fault "script too long"
  | fuel + 1, lines, keys, aliases => do
    let s ← get
    let t ← match s.back with
      | some t =>
        set { s with back := none }
        pure t
      | none => parseRaw fuel false
    match t with
    | .lineEnd =>
      if lines then
        parseDocuments fuel
        parseToken fuel lines keys aliases
      else return t
    | .word w false =>
      let s ← get
      set { s with lookUp := false }
      match Word.plain? w with
      | none => return t
      | some text =>
        if keys && keywords.contains (String.ofList text) then
          return .keyword (String.ofList text)
        else if aliases || s.lookUp then
          match s.aliases.lookup text with
          | some value =>
            if s.expanding.any (·.name == text) then return t
            modify fun s => s.putAlias text value
            parseToken fuel lines keys aliases
          | none => return t
        else return t
    | t => return t

/-- The texts of the here-documents that the last line has asked for. -/
def parseDocuments : Nat → Parse Unit
  | 0 => fault "script too long"
  | fuel + 1 => do
    let s ← get
    match s.awaited with
    | [] => pure ()
    | d :: others =>
      set { s with awaited := others }
      let text ← documentLines d (s.left + 1) false
      let s ← get
      let word : Word ←
        if d.literal then pure [.plain text true]
        else
          set { s with rest := text, left := text.length, awaited := [], expanding := [] }
          parseParts fuel .document
      let after ← get
      set { s with documents := (d.number, word) :: after.documents, asked := after.asked }
      parseDocuments fuel

/-- The target of a redirection. -/
def parseTarget : Nat → Option Nat → String → Parse Redirection
  | 0, _, _ => fault "script too long"
  | fuel + 1, descriptor, operator => do
    let isDocument := operator == "<<" || operator == "<<-"
    let t ← if isDocument then parseRaw fuel true else parseToken fuel false false false
    match t with
    | .word w _ =>
      if isDocument then
        let (finish, literal) := Word.bare w
        let s ← get
        set { s with
          asked := s.asked + 1
          awaited := s.awaited ++ [Awaited.mk s.asked finish literal (operator == "<<-")] }
        return .document (descriptor.getD 0) s.asked
      else return redirectionOf descriptor operator w
    | t => unexpected t none

/-- Redirections behind a compound command. -/
def parseRedirections : Nat → Parse (List Redirection)
  | 0 => fault "script too long"
  | fuel + 1 => do
    match ← parseToken fuel false true true with
    | .redirect descriptor operator =>
      let r ← parseTarget fuel descriptor operator
      return r :: (← parseRedirections fuel)
    | t =>
      putBack t
      return []

/-- A simple command or the definition of a function; what has been read of it is given. -/
def parseSimple : Nat → Nat → List (Octets × Word) → List Word → List Redirection → Parse Command
  | 0, _, _, _, _ => fault "script too long"
  | fuel + 1, line, assignments, words, redirections => do
    match ← parseToken fuel false false words.isEmpty with
    | .word w _ =>
      match if words.isEmpty then Word.assignment? w else none with
      | some a => parseSimple fuel line (assignments ++ [a]) words redirections
      | none => parseSimple fuel line assignments (words ++ [w]) redirections
    | .redirect descriptor operator =>
      let r ← parseTarget fuel descriptor operator
      parseSimple fuel line assignments words (redirections ++ [r])
    | t =>
      match words, assignments, redirections with
      | [w], [], [] =>
        if t.isOperator "(" then
          let t ← parseToken fuel false false false
          if !t.isOperator ")" then unexpected t (some "\")\"")
          match Word.plain? w with
          | some name =>
            if !isName name || reservedCommands.contains (String.ofList name) then
              fault "Bad function name"
            return .definition line name (← parseCommand fuel true)
          | none => fault "Bad function name"
      | _, _, _ => pure ()
      putBack t
      return .simple line assignments words redirections

/-- A command, behind line ends if these are skipped. -/
def parseCommand : Nat → Bool → Parse Command
  | 0, _ => fault "script too long"
  | fuel + 1, lines => do
    let t ← parseToken fuel lines true true
    let line := (← get).line
    let redirected (c : Command) : Parse Command := do
      match ← parseRedirections fuel with
      | [] => return c
      | rs =>
        match c with
        | .apart line c _ => return .apart line c rs
        | c => return .redirected line c rs
    let closed (c : Command) (finish : String) : Parse Command := do
      let t ← parseToken fuel false true true
      if !t.isKeyword finish then unexpected t (some s!"\"{finish}\"")
      redirected c
    let body (t : Option Command) : Command := t.getD .nothing
    match t with
    | .keyword "if" => redirected (← parseBranch fuel)
    | .keyword "while" | .keyword "until" =>
      let test ← parseList fuel 0 none
      let d ← parseToken fuel false true true
      if !d.isKeyword "do" then unexpected d (some "\"do\"")
      let inner ← parseList fuel 0 none
      closed (.repeated (t.isKeyword "until") (body test) (body inner)) "done"
    | .keyword "for" =>
      match ← parseToken fuel false false false with
      | .word w false =>
        match Word.plain? w with
        | some name =>
          if !isName name then fault "Bad for loop variable"
          let words ← parseForWords fuel
          let d ← parseToken fuel true true true
          if !d.isKeyword "do" then unexpected d (some "\"do\"")
          let inner ← parseList fuel 0 none
          closed (.each line name words (body inner)) "done"
        | none => fault "Bad for loop variable"
      | _ => fault "Bad for loop variable"
    | .keyword "case" =>
      match ← parseToken fuel false false false with
      | .word w _ =>
        let t ← parseToken fuel true true true
        if !t.isKeyword "in" then unexpected t (some "\"in\"")
        redirected (.choice line w (← parseCases fuel))
      | t => unexpected t (some "word")
    | .operator "(" =>
      let inner ← parseList fuel 0 none
      let t ← parseToken fuel false true true
      if !t.isOperator ")" then unexpected t (some "\")\"")
      redirected (.apart line (body inner) [])
    | .keyword "\x7b" => do
      let inner ← parseList fuel 0 none
      closed (body inner) "\x7d"
    | .word _ _ | .redirect _ _ =>
      putBack t
      parseSimple fuel line [] [] []
    | t => unexpected t none

/-- What follows `if` or `elif`, through the closing word. -/
def parseBranch : Nat → Parse Command
  | 0 => fault "script too long"
  | fuel + 1 => do
    let test ← parseList fuel 0 none
    let t ← parseToken fuel false true true
    if !t.isKeyword "then" then unexpected t (some "\"then\"")
    let yes ← parseList fuel 0 none
    let branch (no : Option Command) : Command :=
      .branch (test.getD .nothing) (yes.getD .nothing) (no.getD .nothing)
    let t ← parseToken fuel false true true
    if t.isKeyword "elif" then return branch (some (← parseBranch fuel))
    else if t.isKeyword "else" then
      let no ← parseList fuel 0 none
      let t ← parseToken fuel false true true
      if !t.isKeyword "fi" then unexpected t (some "\"fi\"")
      return branch no
    else if t.isKeyword "fi" then return branch none
    else unexpected t (some "\"fi\"")

/-- The words that a loop goes through. -/
def parseForWords : Nat → Parse (List Word)
  | 0 => fault "script too long"
  | fuel + 1 => do
    let t ← parseToken fuel true true true
    if t.isKeyword "in" then parseWords fuel
    else
      if !t.isOperator ";" then putBack t
      return [allArguments]

/-- Words up to the end of a line or a semicolon. -/
def parseWords : Nat → Parse (List Word)
  | 0 => fault "script too long"
  | fuel + 1 => do
    match ← parseToken fuel false false false with
    | .word w _ => return w :: (← parseWords fuel)
    | .lineEnd =>
      parseDocuments fuel
      return []
    | t => if t.isOperator ";" then return [] else unexpected t none

/-- The patterns of a case, up to the bracket; the first token has been read. -/
def parsePatterns : Nat → Token → Parse (List Word)
  | 0, _ => fault "script too long"
  | fuel + 1, t => do
    let pattern : Word := match t with
      | .word w _ => w
      | .keyword s => [.plain s.toList false]
      | _ => []
    let t ← parseToken fuel false false false
    if t.isOperator "|" then
      let t ← parseToken fuel false false false
      return pattern :: (← parsePatterns fuel t)
    else if t.isOperator ")" then return [pattern]
    else unexpected t (some "\")\"")

def parseCases : Nat → Parse (List (List Word × Command))
  | 0 => fault "script too long"
  | fuel + 1 => do
    let t ← parseToken fuel true true false
    if t.isKeyword "esac" then return []
    let t ← if t.isOperator "(" then parseToken fuel false false false else pure t
    match t with
    | .word _ _ | .keyword _ => pure ()
    | t => unexpected t none
    let patterns ← parsePatterns fuel t
    let body ← parseList fuel 2 none
    let this := (patterns, body.getD .nothing)
    let t ← parseToken fuel true true false
    if t.isKeyword "esac" then return [this]
    else if t.isOperator ";;" then return this :: (← parseCases fuel)
    else unexpected t (some "\";;\"")

def parsePipe : Nat → Parse Command
  | 0 => fault "script too long"
  | fuel + 1 => do
    let t ← parseToken fuel false true true
    let negated := t.isKeyword "!"
    if !negated then putBack t
    let first ← parseCommand fuel false
    let others ← parsePipeRest fuel
    let c := if others.isEmpty then first else .pipe (first :: others)
    return if negated then .negated c else c

def parsePipeRest : Nat → Parse (List Command)
  | 0 => fault "script too long"
  | fuel + 1 => do
    let t ← parseToken fuel false true true
    if t.isOperator "|" then
      let c ← parseCommand fuel true
      return c :: (← parsePipeRest fuel)
    else
      putBack t
      return []

/-- Pipes joined by `&&` and `||`, from the left. -/
def parseAndOr : Nat → Option Command → Parse Command
  | 0, _ => fault "script too long"
  | fuel + 1, some c => do
    let t ← parseToken fuel false true true
    if t.isOperator "&&" then
      skipLines fuel
      parseAndOr fuel (some (.also c (← parsePipe fuel)))
    else if t.isOperator "||" then
      skipLines fuel
      parseAndOr fuel (some (.otherwise c (← parsePipe fuel)))
    else
      putBack t
      return c
  | fuel + 1, none => do parseAndOr fuel (some (← parsePipe fuel))

def skipLines : Nat → Parse Unit
  | 0 => fault "script too long"
  | fuel + 1 => do putBack (← parseToken fuel true true true)

/--
A list of commands: at level 1 up to the end of a line, otherwise up to a token that ends a list;
at level 0 there has to be a command. What has been read of it is given.
-/
def parseList : Nat → Nat → Option Command → Parse (Option Command)
  | 0, _, _ => fault "script too long"
  | fuel + 1, level, before => do
    let t ← parseToken fuel (level != 1) true true
    match t with
    | .lineEnd =>
      parseDocuments fuel
      return before
    | .textEnd =>
      parseDocuments fuel
      putBack .textEnd
      return before
    | _ => pure ()
    putBack t
    if (level = 2 || before.isSome) && level != 1 && closesList t then return before
    let line := (← get).line
    let c ← parseAndOr fuel none
    let t ← parseToken fuel false true true
    let c := if t.isOperator "&" then .background line c else c
    let all := match before with
      | some b => Command.sequence b c
      | none => c
    match t with
    | .lineEnd =>
      putBack t
      parseList fuel level (some all)
    | .textEnd =>
      parseDocuments fuel
      putBack t
      return some all
    | t =>
      if t.isOperator ";" || t.isOperator "&" then parseList fuel level (some all)
      else if level = 1 then unexpected t none
      else
        putBack t
        return some all

end

/-- The recursion that reading a text takes at most. -/
def parseDepth (s : Source) : Nat := 40 * s.left + 1000

/-- The commands of the next line that has any, unless the text has come to its end; with what is
left, and whether that is nothing. -/
def parseLine (s : Source) : Except Mistake (Option (Option Command × Bool) × Source) := do
  let (c, s) ← (parseList (parseDepth s) 1 none).run s
  let ended := s.back.any fun t =>
    match t with
    | .textEnd => true
    | _ => false
  return (if ended && c.isNone then none else some (c, ended), s)

end DevServer.Shell
