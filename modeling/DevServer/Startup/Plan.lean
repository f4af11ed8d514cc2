import DevServer.CommandLine.Parse
import DevServer.Files.Edit
import DevServer.Log.Sink
import DevServer.Settings.Load
import DevServer.Settings.Summary
import DevServer.Settings.Validate
import DevServer.Startup.Fault

/-!
# Starting

A start goes from the command line over the settings and the log to a plan of what is run; each
step can end it. The command line goes before the environment, and that before the defaults.
-/

namespace DevServer.Startup

open CommandLine (Options)

structure Surroundings where
  /-- The arguments; the first is the program itself. -/
  args : List Bytes
  env : Settings.Environment
  /-- The working directory, if it is still there. -/
  cwd : Option Path

/-- The directory that the settings come from. -/
def settingsDirectory (o : Options) (s : Surroundings) : Except Fault Path :=
  match o.configDir with
  | some dir => .ok dir
  | none => (Settings.directory s.env s.cwd).mapError .settings

/-- The settings for a directory, once they are valid; `content` is as in `Settings.load`. -/
def settings (o : Options) (s : Surroundings) (dir : Path)
    (content : Option (Except Failure.Cause Bytes)) : Except Fault Settings := do
  let loaded ← (Settings.load dir content s.env).mapError .settings
  let chosen := { loaded with server.port := o.port.getD loaded.server.port }
  match chosen.fault? with
  | some fault => throw (.settings fault)
  | none => return chosen

/-- The directory of the log file, if there is to be one. -/
def logDirectory? (dir : Path) (s : Settings) : Option Path :=
  s.logging.file.map fun _ => dir.join (Path.ofString s.logging.dir)

def sink (dir : Path) (s : Settings) : Log.Sink where
  threshold := s.logging.level
  file := s.logging.file.map fun name =>
    (dir.join (Path.ofString s.logging.dir)).join (Path.ofString name)
  colored := s.logging.colored

def logNotOpened (path : Path) (cause : Failure.Cause) : Fault :=
  .logger s!"Failed to open log file {path.display}: {cause.message}"

def logAlreadySet : Fault :=
  .logger ("Failed to initialize logger: attempted to set a logger after the logging system " ++
    "was already initialized")

structure Plan where
  settings : Settings
  sink : Log.Sink
  root : Path
  building : Bool
  deriving DecidableEq, Repr

/-- The plan of a start; without a working directory the project has to be named. -/
def plan (o : Options) (s : Surroundings) (dir : Path) (chosen : Settings) : Except Fault Plan := do
  let root ← match o.root, s.cwd with
    | some root, _ => pure root
    | none, some cwd => pure cwd
    | none, none => throw (.system .notFound)
  return ⟨chosen, sink dir chosen, root, !o.noBuild⟩

namespace Plan

/-- The targets that are built. -/
def targets (p : Plan) : List Build.Target :=
  if p.building then
    (if p.settings.build.client.enabled then [.client] else []) ++
      (if p.settings.build.server.enabled then [.server] else [])
  else []

def isBuilt (p : Plan) (t : Build.Target) : Bool := p.targets.contains t

/-- What the log says before anything is run. -/
def announcement (p : Plan) : List Log.Line :=
  [p.sink.greeting, .info s!"Starting {CommandLine.programName} v{CommandLine.programVersion}"] ++
  p.settings.summary ++
  [.info s!"Project root: {p.root.display}"] ++
  if p.building then
    ([Build.Target.client, .server].filter fun t => !p.isBuilt t).map fun t =>
      .info s!"{t.name} build pipeline disabled"
  else
    [.info ("Build pipelines disabled, starting worker from " ++
      (p.settings.artifactPath p.root).display)]

end Plan

inductive Outcome where
  /-- The command line asked for a text. -/
  | answered (text : String)
  | refused (problem : CommandLine.Problem)
  | failed (fault : Fault)
  | serving (plan : Plan)
  deriving DecidableEq, Repr

/-- The status that the program exits with, unless it goes on. -/
def Outcome.exitCode? : Outcome → Option Nat
  | answered _ => some 0
  | refused _ => some 2
  | failed _ => some 1
  | serving _ => none

def Outcome.ofExcept : Except Fault Plan → Outcome
  | .ok plan => serving plan
  | .error fault => failed fault

/-- The file of a path, if something is there. -/
def contentAt (t : Files) (cwd : Nat) (p : Path) : Option (Except Failure.Cause Bytes) :=
  if t.isThere cwd p.bytes then some (t.read cwd p.bytes) else none

/-- Opens the log file of a sink, if it has one. -/
def openLog (t : Files) (cwd : Nat) (sink : Log.Sink) : Except Fault Files :=
  match sink.file with
  | none => .ok t
  | some path => (t.openToAppend cwd path).mapError (logNotOpened path)

/-- Makes what the log file needs and opens it. -/
def prepareLog (t : Files) (cwd : Nat) (dir : Path) (s : Settings) : Except Fault Files := do
  let t ← match logDirectory? dir s with
    | some logs => (t.makeDirectories cwd logs).mapError .system
    | none => pure t
  openLog t cwd (sink dir s)

/-- A start with options, among the files of a tree. -/
def run (o : Options) (s : Surroundings) (t : Files) : Except Fault Plan := do
  let cwd := (s.cwd.bind fun p => (t.find Files.top p.bytes true).toOption).getD Files.top
  let dir ← settingsDirectory o s
  let chosen ← settings o s dir (contentAt t cwd (Settings.filePath dir))
  let _ ← prepareLog t cwd dir chosen
  plan o s dir chosen

def start (s : Surroundings) (t : Files) : Outcome :=
  match CommandLine.parse s.args with
  | .help text | .version text => .answered text
  | .refused problem => .refused problem
  | .run o => .ofExcept (run o s t)

end DevServer.Startup
