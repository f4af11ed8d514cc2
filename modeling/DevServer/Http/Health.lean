import DevServer.CommandLine.Basic
import DevServer.Json.Printer
import DevServer.Restart.Schedule

/-!
# Health

What `/health` reports of the worker and of the reload channel.
-/

namespace DevServer.Http

/-- The outcome of the last restart is under `last_restart`. -/
def statusDocument : Restart.Status → Json
  | .pending => .string "pending"
  | .ended .succeeded => .string "succeeded"
  | .ended (.failed reason) => .object [("failed", .object [("reason", .string reason)])]

structure Health where
  restarts : Restart.Snapshot
  subscribers : Nat
  deriving DecidableEq, Repr

namespace Health

/-- Whether the last restart failed. -/
def isDegraded (h : Health) : Bool := h.restarts.last.any (·.isFailed)

def document (h : Health) (time : String) : Json :=
  .object [
    ("reload", .object [("subscribers", .number (.ofNat h.subscribers))]),
    ("status", .string (if h.isDegraded then "degraded" else "ok")),
    ("timestamp", .string time),
    ("version", .string CommandLine.programVersion),
    ("worker", .object [
      ("last_restart", (h.restarts.last.map statusDocument).getD .null),
      ("restarts", .number (.ofNat h.restarts.restarts)),
      ("running", .bool h.restarts.running)])]

end Health

end DevServer.Http
