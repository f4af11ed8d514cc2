import DevServer.Log.Level
import DevServer.Path

/-!
# Settings

What can be set, with defaults. A target that is mentioned in a settings file starts from
`Target.blank`, which has no command; a build section that does not mention it keeps the command of
`Build.default`.
-/

namespace DevServer

namespace Settings

/-- Where the event stream and the health probes are served; port 0 leaves the choice open. -/
structure Server where
  host : String
  port : Nat
  deriving DecidableEq, Repr

def Server.default : Server := ⟨"127.0.0.1", 1616⟩

/-- Variables of an environment. -/
abbrev Variables := List (String × String)

/-- Gives a variable a value. -/
def Variables.set (vars : Variables) (name value : String) : Variables :=
  vars.filter (·.1 != name) ++ [(name, value)]

/-- How the server bundle is run. -/
structure Worker where
  runtime : String
  args : List String
  /-- The path of the server bundle, seen from the project. -/
  artifact : String
  port : Nat
  readyTimeoutMs : Nat
  shutdownTimeoutMs : Nat
  env : Variables
  deriving DecidableEq, Repr

def Worker.default : Worker where
  runtime := "node"
  args := []
  artifact := "dist/main.mjs"
  port := 1617
  readyTimeoutMs := 10000
  shutdownTimeoutMs := 5000
  env := []

/-- The event stream for browsers. -/
structure Reload where
  path : String
  heartbeatSecs : Nat
  channelCapacity : Nat
  /-- How long a client build waits after a restart. -/
  settleDelayMs : Nat
  deriving DecidableEq, Repr

def Reload.default : Reload := ⟨"/__rspack_hmr", 10, 128, 1000⟩

/-- One build pipeline. -/
structure Target where
  enabled : Bool
  command : List String
  /-- The directories that are watched, seen from the project. -/
  watch : List String
  deriving DecidableEq, Repr

def Target.blank : Target := ⟨true, [], ["src"]⟩

/-- The command that builds a configuration of the usual bundler. -/
def Target.bundler (configuration : String) : Target :=
  { Target.blank with command := ["npx", "rspack", "build", "--config-name", configuration] }

structure Build where
  debounceMs : Nat
  client : Target
  server : Target
  deriving DecidableEq, Repr

def Build.default : Build := ⟨300, .bundler "client", .bundler "server"⟩

structure Logging where
  level : Log.Threshold
  colored : Bool
  /-- A file in `dir`; without one, lines go to standard output. -/
  file : Option String
  dir : String
  deriving DecidableEq, Repr

def Logging.default : Logging := ⟨.upTo .info, true, none, "log"⟩

end Settings

structure Settings where
  server : Settings.Server
  worker : Settings.Worker
  reload : Settings.Reload
  build : Settings.Build
  logging : Settings.Logging
  deriving DecidableEq, Repr

namespace Settings

def default : Settings := ⟨.default, .default, .default, .default, .default⟩

/-- The address that the server listens on. -/
def bindAddress (s : Settings) : String := s!"{s.server.host}:{s.server.port}"

/-- The server bundle of the project at `root`. -/
def artifactPath (s : Settings) (root : Path) : Path := root.join (Path.ofString s.worker.artifact)

/-- How to launch a worker. -/
structure Launch where
  runtime : String
  args : List String
  cwd : Path
  env : Variables
  readyTimeoutMs : Nat
  shutdownTimeoutMs : Nat
  deriving DecidableEq, Repr

/-- The worker of the project at `root`, which learns its port from `PORT`. -/
def launch (s : Settings) (root : Path) : Launch where
  runtime := s.worker.runtime
  args := s.worker.args
  cwd := root
  env := s.worker.env.set "PORT" s!"{s.worker.port}"
  readyTimeoutMs := s.worker.readyTimeoutMs
  shutdownTimeoutMs := s.worker.shutdownTimeoutMs

end Settings

end DevServer
