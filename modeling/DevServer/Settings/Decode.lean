import DevServer.Settings.Basic
import DevServer.Toml.Basic

/-!
# Settings from TOML

A section is a table, or an array of its values in the order of its keys; a date or time is a table
without them. A key that is missing takes
the section's default; a key of the wrong type, or a number out of range, makes the whole document
unusable. Keys that are not known are passed over.
-/

namespace DevServer.Settings

/-- The value of a key of a section, `none` where it is missing. -/
abbrev Section := String → Option Toml

/-- A section with the given keys. Values of other keys only have to be in range. -/
def section? (keys : List String) : Toml → Option Section
  | .array items => some ((keys.zip items).lookup ·)
  | v => do
    let fields ← v.fields?
    if (fields.filter (!keys.contains ·.1)).all (·.2.isInRange) then some (fields.lookup ·)
    else none

/-- The value of a key, or a default where it is missing. -/
def Section.get (s : Section) (key : String) (decode : Toml → Option α) (default : α) : Option α :=
  match s key with
  | none => some default
  | some v => decode v

def text? : Toml → Option String
  | .string s => some s
  | _ => none

def flag? : Toml → Option Bool
  | .boolean b => some b
  | _ => none

/-- A natural number below a bound. -/
def below? (bound : Nat) : Toml → Option Nat
  | .integer (.ofNat n) => if n < bound then some n else none
  | _ => none

def port? : Toml → Option Nat := below? (Nat.pow 2 16)

def word? : Toml → Option Nat := below? (Nat.pow 2 64)

def texts? : Toml → Option (List String)
  | .array items => items.mapM text?
  | _ => none

def variables? (v : Toml) : Option Variables := do
  (← v.fields?).mapM fun (name, v) => (text? v).map (name, ·)

/-- A level of any other type than a text means `info`. -/
def threshold : Toml → Log.Threshold
  | .string s => .ofNameLenient s
  | _ => .upTo .info

def Server.ofToml? (v : Toml) : Option Server := do
  let s ← section? ["host", "port"] v
  let d := Server.default
  return ⟨← s.get "host" text? d.host, ← s.get "port" port? d.port⟩

def Worker.ofToml? (v : Toml) : Option Worker := do
  let s ← section? ["runtime", "args", "artifact", "port", "ready_timeout_ms",
    "shutdown_timeout_ms", "env"] v
  let d := Worker.default
  return {
    runtime := ← s.get "runtime" text? d.runtime
    args := ← s.get "args" texts? d.args
    artifact := ← s.get "artifact" text? d.artifact
    port := ← s.get "port" port? d.port
    readyTimeoutMs := ← s.get "ready_timeout_ms" word? d.readyTimeoutMs
    shutdownTimeoutMs := ← s.get "shutdown_timeout_ms" word? d.shutdownTimeoutMs
    env := ← s.get "env" variables? d.env }

def Reload.ofToml? (v : Toml) : Option Reload := do
  let s ← section? ["path", "heartbeat_secs", "channel_capacity", "settle_delay_ms"] v
  let d := Reload.default
  return {
    path := ← s.get "path" text? d.path
    heartbeatSecs := ← s.get "heartbeat_secs" word? d.heartbeatSecs
    channelCapacity := ← s.get "channel_capacity" word? d.channelCapacity
    settleDelayMs := ← s.get "settle_delay_ms" word? d.settleDelayMs }

/-- A target that is mentioned starts from the blank one. -/
def Target.ofToml? (v : Toml) : Option Target := do
  let s ← section? ["enabled", "command", "watch"] v
  let d := Target.blank
  return {
    enabled := ← s.get "enabled" flag? d.enabled
    command := ← s.get "command" texts? d.command
    watch := ← s.get "watch" texts? d.watch }

def Build.ofToml? (v : Toml) : Option Build := do
  let s ← section? ["debounce_ms", "client", "server"] v
  let d := Build.default
  return {
    debounceMs := ← s.get "debounce_ms" word? d.debounceMs
    client := ← s.get "client" Target.ofToml? d.client
    server := ← s.get "server" Target.ofToml? d.server }

def Logging.ofToml? (v : Toml) : Option Logging := do
  let s ← section? ["level", "colored", "file", "dir"] v
  let d := Logging.default
  return {
    level := ← s.get "level" (some ∘ threshold) d.level
    colored := ← s.get "colored" flag? d.colored
    file := ← s.get "file" (fun v => (text? v).map some) d.file
    dir := ← s.get "dir" text? d.dir }

/-- The settings that the fields of a document give. -/
def ofFields? (fields : List (String × Toml)) : Option Settings := do
  let s ← section? ["server", "worker", "reload", "build", "logging"] (.table fields)
  let d := Settings.default
  return {
    server := ← s.get "server" Server.ofToml? d.server
    worker := ← s.get "worker" Worker.ofToml? d.worker
    reload := ← s.get "reload" Reload.ofToml? d.reload
    build := ← s.get "build" Build.ofToml? d.build
    logging := ← s.get "logging" Logging.ofToml? d.logging }

end DevServer.Settings
