import DevServer.Settings.Basic
import DevServer.Text.Utf8

/-!
# Settings from the environment

Each override names a variable and says what its value does to the settings. A value that does not
read as a number, where a number is set, leaves the settings as they are; a flag is set by `true` and
`1` and cleared by every other value.
-/

namespace DevServer.Settings

/-- Variables of the process; a value can be any bytes. -/
abbrev Environment := List (String × Bytes)

/-- The value of a variable, if it is set to text. -/
def Environment.get? (env : Environment) (name : String) : Option String :=
  (env.lookup name).bind Text.decode?

/-- A natural number below a bound: digits, perhaps after a plus sign. -/
def natural? (bound : Nat) (s : String) : Option Nat :=
  let ds := match s.toList with
    | '+' :: ds => ds
    | ds => ds
  if ds.isEmpty || !ds.all Char.isDigit then none
  else
    let n := Nat.ofDigitChars 10 ds 0
    if n < bound then some n else none

def isOn (s : String) : Bool := s == "true" || s == "1"

/-- A variable and what its value does to the settings. -/
structure Override where
  name : String
  apply : String → Settings → Settings

namespace Override

def ofText (name : String) (set : String → Settings → Settings) : Override := ⟨name, set⟩

def ofNumber (name : String) (bound : Nat) (set : Nat → Settings → Settings) : Override :=
  ⟨name, fun v s => ((natural? bound v).map (set · s)).getD s⟩

def ofFlag (name : String) (set : Bool → Settings → Settings) : Override :=
  ⟨name, fun v => set (isOn v)⟩

end Override

def portBound : Nat := Nat.pow 2 16

def wordBound : Nat := Nat.pow 2 64

open Override in
/-- All overrides. -/
def overrides : List Override := [
  ofText "DEVLOOP_SERVER_HOST" fun v s => { s with server.host := v },
  ofNumber "DEVLOOP_SERVER_PORT" portBound fun n s => { s with server.port := n },
  ofText "DEVLOOP_WORKER_RUNTIME" fun v s => { s with worker.runtime := v },
  ofText "DEVLOOP_WORKER_ARTIFACT" fun v s => { s with worker.artifact := v },
  ofNumber "DEVLOOP_WORKER_PORT" portBound fun n s => { s with worker.port := n },
  ofNumber "DEVLOOP_WORKER_READY_TIMEOUT_MS" wordBound
    fun n s => { s with worker.readyTimeoutMs := n },
  ofNumber "DEVLOOP_WORKER_SHUTDOWN_TIMEOUT_MS" wordBound
    fun n s => { s with worker.shutdownTimeoutMs := n },
  ofText "DEVLOOP_RELOAD_PATH" fun v s => { s with reload.path := v },
  ofNumber "DEVLOOP_RELOAD_HEARTBEAT_SECS" wordBound
    fun n s => { s with reload.heartbeatSecs := n },
  ofNumber "DEVLOOP_RELOAD_CHANNEL_CAPACITY" wordBound
    fun n s => { s with reload.channelCapacity := n },
  ofNumber "DEVLOOP_RELOAD_SETTLE_DELAY_MS" wordBound
    fun n s => { s with reload.settleDelayMs := n },
  ofNumber "DEVLOOP_BUILD_DEBOUNCE_MS" wordBound fun n s => { s with build.debounceMs := n },
  ofFlag "DEVLOOP_BUILD_CLIENT_ENABLED" fun b s => { s with build.client.enabled := b },
  ofFlag "DEVLOOP_BUILD_SERVER_ENABLED" fun b s => { s with build.server.enabled := b },
  ofText "DEVLOOP_LOG_LEVEL" fun v s => { s with logging.level := .ofNameLenient v },
  ofFlag "DEVLOOP_LOG_COLORED" fun b s => { s with logging.colored := b },
  ofText "DEVLOOP_LOG_FILE" fun v s => { s with logging.file := some v }]

/-- One override takes effect when its variable is set to text. -/
def Override.take (env : Environment) (s : Settings) (o : Override) : Settings :=
  match env.get? o.name with
  | some v => o.apply v s
  | none => s

/-- The settings with every override in effect. -/
def override (s : Settings) (env : Environment) : Settings :=
  overrides.foldl (Override.take env) s

end DevServer.Settings
