import DevServer.Log.Line
import DevServer.Settings.Basic

/-!
# The summary of the settings that is logged at the start
-/

namespace DevServer.Settings

def Target.summary (name : String) (t : Target) : String :=
  let command := " ".intercalate t.command
  let watch := ", ".intercalate t.watch
  if t.enabled then s!"  build.{name}: `{command}` watching [{watch}]"
  else s!"  build.{name}: disabled"

def Worker.summary (w : Worker) : String :=
  let args := " ".intercalate w.args
  s!"  worker: {w.runtime} {args} {w.artifact} (port {w.port}, " ++
    s!"ready timeout {w.readyTimeoutMs}ms, shutdown timeout {w.shutdownTimeoutMs}ms)"

def Reload.summary (r : Reload) : String :=
  s!"  reload: {r.path} (heartbeat {r.heartbeatSecs}s, capacity {r.channelCapacity}, " ++
    s!"settle {r.settleDelayMs}ms)"

def summary (s : Settings) : List Log.Line := [
  .info "Configuration loaded:",
  .info s!"  server: {s.server.host}:{s.server.port}",
  .info s.worker.summary,
  .info s.reload.summary,
  .info (s.build.client.summary "client"),
  .info (s.build.server.summary "server"),
  .info s!"  build debounce: {s.build.debounceMs}ms",
  .info s!"  logging: {s.logging.level.name} (colored: {s.logging.colored})"]

end DevServer.Settings
