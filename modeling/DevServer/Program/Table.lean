import DevServer.Process.System
import DevServer.Program.Calculation
import DevServer.Program.Copying
import DevServer.Program.Dump
import DevServer.Program.Edit
import DevServer.Program.Listing
import DevServer.Program.Runner
import DevServer.Shell.Invoke

/-!
# The programs of a system

Every program by its name, and a file system in which they are found.
-/

namespace DevServer.Program

open Process (Routine Programs)
open Text (Octets)

/-- What a program does with its arguments and its environment. -/
abbrev Routines := List Octets → List Octets → Routine Nat

/-- A command of the shell that is a program too. -/
def shellCommand (command : List Octets → Shell.Sh Nat) (argv environment : List Octets) : Routine Nat :=
  asProgram command (.new (argv.headD []) environment) argv

def shell (argv environment : List Octets) : Routine Nat :=
  Shell.shell (argv.headD []) (argv.drop 1) environment

/-- The date when the clock begins, by the letters of a format. -/
def dateText : Octets → Octets
  | '%' :: c :: cs =>
    (match c with
      | 's' => "1767225600".toList
      | 'N' => "000000000".toList
      | 'Y' => "2026".toList
      | 'm' | 'd' => "01".toList
      | 'H' | 'M' | 'S' => "00".toList
      | 'F' => "2026-01-01".toList
      | 'T' => "00:00:00".toList
      | 'n' => ['\n']
      | '%' => ['%']
      | c => ['%', c]) ++ dateText cs
  | c :: cs => c :: dateText cs
  | [] => []

def date (argv _ : List Octets) : Routine Nat :=
  let format := (argv.find? fun a => a.head? == some '+').map (·.drop 1)
  print (argv.headD []) (line ((format.map dateText).getD "Thu Jan  1 00:00:00 UTC 2026".toList))

/-- The programs with their names. -/
def table : List (String × Routines) := [
  ("[", shellCommand Shell.bracketCommand), ("arch", oneLine "x86_64"), ("basename", basename),
  ("bash", shell), ("cat", cat), ("chmod", chmod), ("cp", cp), ("cut", cut), ("dash", shell),
  ("date", date), ("dd", dd), ("dirname", dirname), ("echo", echo), ("egrep", grep), ("env", env), ("expr", expr),
  ("false", constant 1), ("fgrep", grep),
  ("find", fun argv environment =>
    find (running (argv.headD []) environment) argv environment),
  ("grep", grep), ("head", head), ("hostname", oneLine "localhost"), ("id", identity),
  ("kill", shellCommand Shell.killCommand), ("ln", ln), ("ls", ls), ("mkdir", mkdir),
  ("mktemp", mktemp), ("mv", mv), ("nice", nice), ("nohup", nohup), ("nproc", oneLine "1"), ("od", od),
  ("printenv", printenv), ("printf", shellCommand Shell.printfCommand), ("pwd", pwd),
  ("readlink", readlink), ("realpath", realpath), ("rev", rev), ("rm", rm), ("rmdir", rmdir),
  ("sed", sed), ("seq", seq), ("setsid", setsid), ("sh", shell), ("sleep", sleep), ("sort", sort),
  ("stat", stat), ("stdbuf", stdbuf), ("sync", constant 0), ("tac", tac), ("tail", tail), ("tee", tee),
  ("test", shellCommand Shell.testCommand), ("timeout", timeout), ("touch", touch), ("tr", tr),
  ("true", constant 0), ("truncate", truncate), ("uname", systemName), ("uniq", uniq),
  ("unlink", unlink), ("wc", wc), ("which", which), ("whoami", oneLine "root"), ("xargs", xargs),
  ("yes", yes)]

/-- What all programs do; a name that is none fails. -/
def all : Programs := fun name argv environment =>
  match table.lookup name with
  | some f => (f argv environment).whole
  | none => .exit 127

end DevServer.Program
