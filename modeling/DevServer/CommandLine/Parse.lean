import DevServer.CommandLine.Basic

/-!
# Reading the command line

Arguments are taken from left to right. An option that takes a value waits for the next argument
unless the value is attached with `=`; it takes effect when the next known option, or the end, is
reached. So an unknown argument is reported even if a value before it would not have been good.
-/

namespace DevServer.CommandLine

/-- An option that takes a value. -/
inductive Valued where
  | configDir
  | root
  | port
  deriving DecidableEq, Repr

/-- What a long name stands for. -/
inductive Named where
  | valued (option : Valued)
  | noBuild
  | help
  | version
  deriving DecidableEq, Repr

def Named.ofName? (name : Bytes) : Option Named :=
  match Text.decode? name with
  | some "config-dir" => some (valued .configDir)
  | some "root" => some (valued .root)
  | some "port" => some (valued .port)
  | some "no-build" => some noBuild
  | some "help" => some help
  | some "version" => some version
  | _ => none

/-- A whole number: digits, perhaps after a sign. -/
def wholeNumber? (s : String) : Option Int :=
  let (negative, ds) := match s.toList with
    | '-' :: ds => (true, ds)
    | '+' :: ds => (false, ds)
    | ds => (false, ds)
  if ds.isEmpty || !ds.all Char.isDigit then none
  else
    let n : Int := Nat.ofDigitChars 10 ds 0
    some (if negative then -n else n)

/-- A port is a whole number that 16 bits hold. -/
def readPort (value : Bytes) : Except Problem Nat :=
  match Text.decode? value with
  | none => .error .invalidUtf8
  | some s =>
    match wholeNumber? s with
    | some (.ofNat n) => if n < Nat.pow 2 16 then .ok n else .error .valueValidation
    | _ => .error .valueValidation

/-- A path has at least one byte. -/
def readPath (value : Bytes) : Except Problem Path :=
  if value.isEmpty then .error .invalidValue else .ok ⟨value⟩

/-- Whether an option has been given already. -/
def Options.has (o : Options) : Valued → Bool
  | .configDir => o.configDir.isSome
  | .root => o.root.isSome
  | .port => o.port.isSome

/-- An option takes effect; it can be given once. -/
def Options.set (o : Options) (option : Valued) (value : Bytes) : Except Problem Options :=
  if o.has option then .error .argumentConflict
  else match option with
    | .configDir => do return { o with configDir := some (← readPath value) }
    | .root => do return { o with root := some (← readPath value) }
    | .port => do return { o with port := some (← readPort value) }

/-- Options so far, and an option that has not taken effect, with its value if that has come. -/
structure Progress where
  options : Options
  waiting : Option (Valued × Option Bytes)
  deriving Repr

namespace Progress

def start : Progress := ⟨.none, none⟩

/-- The option that waits takes effect. -/
def resolve (p : Progress) : Except Problem Options :=
  match p.waiting with
  | none => .ok p.options
  | some (_, none) => .error .invalidValue
  | some (option, some value) => p.options.set option value

end Progress

/-- How one argument is taken: the arguments go on, or they stop here. -/
inductive Taken where
  | more (p : Progress)
  | stop (r : Request)

def Taken.ofExcept : Except Problem Progress → Taken
  | .ok p => more p
  | .error problem => stop (.refused problem)

/-- An argument that stops the reading once what waits has taken effect. -/
def Progress.stopWith (p : Progress) (r : Request) : Taken :=
  match p.resolve with
  | .ok _ => .stop r
  | .error problem => .stop (.refused problem)

/-- A long option with the value that is attached to it. -/
def Progress.takeLong (p : Progress) (help : String) (name : Bytes) (value : Option Bytes) : Taken :=
  match Named.ofName? name, value with
  | none, _ => .stop (.refused .unknownArgument)
  | some (.valued option), some value =>
    .ofExcept do
      let options ← p.resolve
      return ⟨← options.set option value, none⟩
  | some (.valued option), none => .ofExcept do return ⟨← p.resolve, some (option, none)⟩
  | some _, some _ => .stop (.refused .tooManyValues)
  | some .noBuild, none =>
    .ofExcept do
      let options ← p.resolve
      if options.noBuild then throw .argumentConflict
      return ⟨{ options with noBuild := true }, none⟩
  | some .help, none => p.stopWith (.help help)
  | some .version, none => p.stopWith (.version versionText)

/-- The first letter after one dash decides. -/
def Progress.takeShort (p : Progress) (help : String) (letter : UInt8) : Taken :=
  if letter = 0x68 then p.stopWith (.help help)
  else if letter = 0x56 then p.stopWith (.version versionText)
  else .stop (.refused .unknownArgument)

/-- An argument that is no option: the value that an option waits for. -/
def Progress.takeValue (p : Progress) (value : Bytes) : Taken :=
  match p.waiting with
  | some (option, none) => .more { p with waiting := some (option, some value) }
  | _ => .stop (.refused .unknownArgument)

/-- The name in front of the first equals sign, and the value behind it. -/
def splitValue (arg : Bytes) : Bytes × Option Bytes :=
  match arg.dropWhile (· != 0x3D) with
  | _ :: value => (arg.takeWhile (· != 0x3D), some value)
  | [] => (arg, none)

/-- Two dashes alone end the options, and nothing may follow them. -/
def takeAll (help : String) (p : Progress) : List Bytes → Request
  | [] =>
    match p.resolve with
    | .ok options => .run options
    | .error problem => .refused problem
  | [0x2D, 0x2D] :: rest =>
    if rest.isEmpty then takeAll help p [] else .refused .unknownArgument
  | arg :: rest =>
    let taken := match arg with
      | 0x2D :: 0x2D :: long => p.takeLong help (splitValue long).1 (splitValue long).2
      | 0x2D :: letter :: _ => p.takeShort help letter
      | value => p.takeValue value
    match taken with
    | .more p => takeAll help p rest
    | .stop r => r

/-- The name that the help shows: the file name that the program was called by, if that is text. -/
def calledName (program : Option Bytes) : String :=
  ((program.bind fun b => Path.fileName? ⟨b⟩).bind Text.decode?).getD programName

/-- What a command line asks for; its first argument is the program itself. -/
def parse (args : List Bytes) : Request :=
  takeAll (helpText (calledName args.head?)) .start args.tail

end DevServer.CommandLine
