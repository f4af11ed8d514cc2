import DevServer.Calendar
import DevServer.Startup.Plan
import DevServer.Startup.Report

/-!
# The program

Makes a start among the files of the machine it is called on: it answers the command line, reads the
settings, opens the log and announces the plan there. Each decision is one of `DevServer.Startup`.
-/

namespace DevServer.Main

open Startup (Outcome Plan Surroundings)

/-- The cause of a call that failed; its number can come with a sign. -/
def causeOf (e : IO.Error) : Failure.Cause :=
  match e with
  | .alreadyExists _ code _ | .otherError code _ | .resourceBusy code _ | .resourceVanished code _
  | .unsupportedOperation code _ | .hardwareFault code _ | .unsatisfiedConstraints code _
  | .illegalOperation code _ | .protocolError code _ | .timeExpired code _ | .interrupted _ code _
  | .noFileOrDirectory _ code _ | .invalidArgument _ code _ | .permissionDenied _ code _
  | .resourceExhausted _ code _ | .inappropriateType _ code _ | .noSuchThing _ code _ =>
    .errno code.toInt32.toInt.natAbs
  | .unexpectedEof | .userError _ => .other (toString e)

/-- A call whose failure ends the start. -/
def attempt (fault : Failure.Cause → Startup.Fault) (call : IO α) : ExceptT Startup.Fault IO α := do
  match ← call.toBaseIO with
  | .ok a => return a
  | .error e => throw (fault (causeOf e))

/-- The variables that the settings look at, as far as they are set. -/
def environment : IO Settings.Environment := do
  let names := Settings.directoryVariable :: Settings.overrides.map (·.name)
  let values ← names.mapM fun name => return (← IO.getEnv name).map fun v => (name, Text.encode v)
  return values.filterMap id

def surroundings (args : List String) : IO Surroundings := do
  let cwd ← try pure (some (Path.ofString (← IO.currentDir).toString)) catch _ => pure none
  return ⟨(CommandLine.programName :: args).map Text.encode, ← environment, cwd⟩

/-- What reading a file gives, if something is there. -/
def contentAt (p : Path) : IO (Option (Except Failure.Cause Bytes)) := do
  match ← (IO.FS.readBinFile p.display).toBaseIO with
  | .ok bytes => return some (.ok bytes.toList)
  | .error e =>
    let cause := causeOf e
    return if cause = .notFound ∨ cause = .notDirectory then none else some (.error cause)

/-- Opens the log, after making its directory. -/
def openLog (dir : Path) (s : Settings) : ExceptT Startup.Fault IO IO.FS.Stream := do
  if let some logs := Startup.logDirectory? dir s then
    attempt .system (IO.FS.createDirAll logs.display)
  match (Startup.sink dir s).file with
  | none => IO.getStdout
  | some p =>
    return .ofHandle (← attempt (Startup.logNotOpened p) (IO.FS.Handle.mk p.display .append))

/-- The time, which a file that has just been made carries. -/
def now : IO Instant := do
  let (_, path) ← IO.FS.createTempFile
  let time := (← path.metadata).modified
  IO.FS.removeFile path
  return ⟨time.sec, time.nsec.toNat⟩

/-- The record of a line of the announcement. -/
def recordOf (l : Log.Line) : Log.Record := ⟨l.level, CommandLine.programName, l.text, none, none⟩

/-- A start with options. -/
def start (o : CommandLine.Options) (s : Surroundings) : ExceptT Startup.Fault IO Plan := do
  let dir ← Startup.settingsDirectory o s
  let chosen ← Startup.settings o s dir (← contentAt (Settings.filePath dir))
  let log ← openLog dir chosen
  let plan ← Startup.plan o s dir chosen
  log.putStr (plan.sink.write (← now).rfc3339 (plan.announcement.map recordOf))
  log.flush
  return plan

def run (s : Surroundings) : IO Outcome := do
  match CommandLine.parse s.args with
  | .help text | .version text => return .answered text
  | .refused problem => return .refused problem
  | .run o => return .ofExcept (← (start o s).run)

/-- The place that faults are reported from. -/
def place : Failure.Location := ⟨"DevServer/Main.lean", 1, 1⟩

/-- Says what a start came to; a plan is announced in the log. -/
def report : Outcome → IO Unit
  | .answered text => IO.print text
  | .refused problem => IO.eprintln s!"error: {problem.text}"
  | .failed fault => IO.eprintln ("Error: " ++ fault.shown place)
  | .serving _ => pure ()

end DevServer.Main

def main (args : List String) : IO UInt32 := do
  let outcome ← DevServer.Main.run (← DevServer.Main.surroundings args)
  DevServer.Main.report outcome
  return (outcome.exitCode?.getD 0).toUInt32
