import DevServer.Settings.Basic
import DevServer.Settings.Fault
import DevServer.Text.Blank

/-!
# Validation

`refusals` lists what can be wrong with settings, in the order in which it is looked for; the first
one that holds refuses the settings.
-/

namespace DevServer.Settings

/-- A condition that refuses the settings, and how that is reported. -/
structure Refusal where
  holds : Bool
  category : Category
  message : String

/-- Ports below this one are reserved. -/
def minPort : Nat := 1024

def minReadyTimeoutMs : Nat := 100

def maxReadyTimeoutMs : Nat := 600000

def maxSettleDelayMs : Nat := 60000

def isReserved (port : Nat) : Bool := port != 0 && port < minPort

def Server.refusals (s : Server) : List Refusal := [
  ⟨isReserved s.port, .server,
    s!"server.port must be 0 (auto) or >= {minPort}, got {s.port}"⟩,
  ⟨Text.allBlank s.host, .server, "server.host cannot be empty"⟩]

def Worker.refusals (w : Worker) : List Refusal := [
  ⟨Text.allBlank w.runtime, .worker, "worker.runtime cannot be empty"⟩,
  ⟨Text.allBlank w.artifact, .worker, "worker.artifact cannot be empty"⟩,
  ⟨isReserved w.port, .worker, s!"worker.port must be 0 or >= {minPort}, got {w.port}"⟩,
  ⟨w.readyTimeoutMs < minReadyTimeoutMs || maxReadyTimeoutMs < w.readyTimeoutMs, .worker,
    s!"worker.ready_timeout_ms must be {minReadyTimeoutMs}-{maxReadyTimeoutMs}, " ++
      s!"got {w.readyTimeoutMs}"⟩,
  ⟨w.shutdownTimeoutMs == 0, .worker, "worker.shutdown_timeout_ms must be greater than 0"⟩]

def Reload.refusals (r : Reload) : List Refusal := [
  ⟨r.path.toList.head? != some '/', .reload,
    s!"reload.path must start with '/', got '{r.path}'"⟩,
  ⟨r.heartbeatSecs == 0, .reload, "reload.heartbeat_secs must be greater than 0"⟩,
  ⟨r.channelCapacity == 0, .reload, "reload.channel_capacity must be greater than 0"⟩,
  ⟨maxSettleDelayMs < r.settleDelayMs, .reload,
    s!"reload.settle_delay_ms must be <= {maxSettleDelayMs}, got {r.settleDelayMs}"⟩]

/-- A target that is disabled can have any command. -/
def Target.refusals (name : String) (t : Target) : List Refusal := [
  ⟨t.enabled && t.command.head?.all Text.allBlank, .build,
    s!"build.{name}.command cannot be empty"⟩,
  ⟨t.enabled && t.watch.isEmpty, .build, s!"build.{name}.watch needs at least one directory"⟩]

/-- All that can be wrong with settings. -/
def refusals (s : Settings) : List Refusal :=
  s.server.refusals ++ s.worker.refusals ++ s.reload.refusals ++
  s.build.client.refusals "client" ++ s.build.server.refusals "server" ++
  [⟨s.server.port != 0 && s.server.port == s.worker.port, .config,
    s!"server.port and worker.port must differ, both are {s.server.port}"⟩]

/-- Why the settings are refused, if they are. -/
def fault? (s : Settings) : Option Fault :=
  (s.refusals.find? (·.holds)).map fun r => .refused r.category r.message

def isValid (s : Settings) : Bool := s.fault?.isNone

theorem isValid_iff (s : Settings) : s.isValid = true ↔ ∀ r ∈ s.refusals, r.holds = false := by
  simp [isValid, fault?, List.find?_eq_none]

end DevServer.Settings
