import DevServer.Path

/-!
# The command line

What the program can be asked for, and the texts that explain it.
-/

namespace DevServer.CommandLine

/-- What a run of the program is given. -/
structure Options where
  configDir : Option Path
  root : Option Path
  port : Option Nat
  noBuild : Bool
  deriving DecidableEq, Repr

def Options.none : Options := ⟨.none, .none, .none, false⟩

/-- What is wrong with a command line. -/
inductive Problem where
  | unknownArgument
  /-- A value is missing or empty. -/
  | invalidValue
  /-- A value does not read as what it should be. -/
  | valueValidation
  | argumentConflict
  | tooManyValues
  | invalidUtf8
  deriving DecidableEq, Repr

/-- The problem in a few words. -/
def Problem.text : Problem → String
  | unknownArgument => "an argument is not known"
  | invalidValue => "an option lacks its value"
  | valueValidation => "a value is not in range"
  | argumentConflict => "an option is given more than once"
  | tooManyValues => "a flag is given a value"
  | invalidUtf8 => "an argument is no text"

/-- What a command line comes to. -/
inductive Request where
  | run (options : Options)
  | help (text : String)
  | version (text : String)
  | refused (problem : Problem)
  deriving DecidableEq, Repr

/-- The status the program exits with when it does not run. -/
def Request.exitCode : Request → Nat
  | refused _ => 2
  | run _ | help _ | version _ => 0

def programName : String := "devloop"

def programVersion : String := "0.1.0"

def versionText : String := s!"{programName} {programVersion}\n"

/-- The help, for a program that was called as `name`. -/
def helpText (name : String) : String :=
  "Rebuilds, restarts and live-reloads a server-rendered app during development\n\n" ++
  s!"Usage: {name} [OPTIONS]\n\n" ++
  "Options:\n" ++
  "      --config-dir <CONFIG_DIR>  Directory holding config.toml " ++
  "(defaults to $DEVLOOP_CONFIG_DIR, then ./.devloop)\n" ++
  "      --root <ROOT>              Project root the worker and build commands run from " ++
  "(defaults to the current directory)\n" ++
  "      --port <PORT>              Port for the dev server, overriding server.port\n" ++
  "      --no-build                 Skip the build pipelines and serve the existing artifact\n" ++
  "  -h, --help                     Print help\n" ++
  "  -V, --version                  Print version\n"

end DevServer.CommandLine
