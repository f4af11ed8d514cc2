import DevServer.Settings.Decode
import Mathlib.Data.List.Nodup

/-!
# The keys of the settings

A key has a path through the tables of a document, a value in the settings and a way to decode what
stands in the document. The settings are nothing but the values of their keys (`ext_keys`).
-/

namespace DevServer.Settings

/-! ### Keys -/

/-- A key of a part of the settings. -/
structure Key (σ : Type) : Type 1 where
  Value : Type
  /-- The names of the tables that lead to the key, and its own. -/
  path : List String
  read : σ → Value
  decode : Toml → Option Value

/-- A key of a part, seen from the whole that has the part under a name. -/
def Key.under {σ τ : Type} (name : String) (part : τ → σ) (k : Key σ) : Key τ :=
  ⟨k.Value, name :: k.path, k.read ∘ part, k.decode⟩

def Server.keys : List (Key Server) := [
  ⟨String, ["host"], (·.host), text?⟩,
  ⟨Nat, ["port"], (·.port), port?⟩]

def Worker.keys : List (Key Worker) := [
  ⟨String, ["runtime"], (·.runtime), text?⟩,
  ⟨List String, ["args"], (·.args), texts?⟩,
  ⟨String, ["artifact"], (·.artifact), text?⟩,
  ⟨Nat, ["port"], (·.port), port?⟩,
  ⟨Nat, ["ready_timeout_ms"], (·.readyTimeoutMs), word?⟩,
  ⟨Nat, ["shutdown_timeout_ms"], (·.shutdownTimeoutMs), word?⟩,
  ⟨Variables, ["env"], (·.env), variables?⟩]

def Reload.keys : List (Key Reload) := [
  ⟨String, ["path"], (·.path), text?⟩,
  ⟨Nat, ["heartbeat_secs"], (·.heartbeatSecs), word?⟩,
  ⟨Nat, ["channel_capacity"], (·.channelCapacity), word?⟩,
  ⟨Nat, ["settle_delay_ms"], (·.settleDelayMs), word?⟩]

def Target.keys : List (Key Target) := [
  ⟨Bool, ["enabled"], (·.enabled), flag?⟩,
  ⟨List String, ["command"], (·.command), texts?⟩,
  ⟨List String, ["watch"], (·.watch), texts?⟩]

def Build.keys : List (Key Build) :=
  ⟨Nat, ["debounce_ms"], (·.debounceMs), word?⟩ ::
    (Target.keys.map (Key.under "client" Build.client) ++
      Target.keys.map (Key.under "server" Build.server))

def Logging.keys : List (Key Logging) := [
  ⟨Log.Threshold, ["level"], (·.level), some ∘ threshold⟩,
  ⟨Bool, ["colored"], (·.colored), flag?⟩,
  ⟨Option String, ["file"], (·.file), fun v => (text? v).map some⟩,
  ⟨String, ["dir"], (·.dir), text?⟩]

/-- All keys. -/
def keys : List (Key Settings) :=
  Server.keys.map (Key.under "server" server) ++ Worker.keys.map (Key.under "worker" worker) ++
  Reload.keys.map (Key.under "reload" reload) ++ Build.keys.map (Key.under "build" build) ++
  Logging.keys.map (Key.under "logging" logging)

def keyPaths : List (List String) := keys.map (·.path)

theorem path_mem_keyPaths {k : Key Settings} (hk : k ∈ keys) : k.path ∈ keyPaths :=
  List.mem_map_of_mem hk

/-- No two keys have the same path. -/
theorem eq_of_path_eq {k k' : Key Settings} (hk : k ∈ keys) (hk' : k' ∈ keys)
    (h : k.path = k'.path) : k = k' := by
  have hnodup : keyPaths.Nodup := by decide
  exact List.inj_on_of_nodup_map hnodup hk hk' h

/-- Parts of two settings agree on what is under a name. -/
theorem forall_mem_under {σ τ : Type} {name : String} {part : τ → σ} {ks : List (Key σ)} {a b : τ} :
    (∀ k ∈ ks.map (Key.under name part), k.read a = k.read b) ↔
      ∀ k ∈ ks, k.read (part a) = k.read (part b) := by
  simp [Key.under]

theorem Server.ext_keys {a b : Server} (h : ∀ k ∈ Server.keys, k.read a = k.read b) : a = b := by
  cases a
  cases b
  simpa [keys] using h

theorem Worker.ext_keys {a b : Worker} (h : ∀ k ∈ Worker.keys, k.read a = k.read b) : a = b := by
  cases a
  cases b
  simpa [keys] using h

theorem Reload.ext_keys {a b : Reload} (h : ∀ k ∈ Reload.keys, k.read a = k.read b) : a = b := by
  cases a
  cases b
  simpa [keys] using h

theorem Target.ext_keys {a b : Target} (h : ∀ k ∈ Target.keys, k.read a = k.read b) : a = b := by
  cases a
  cases b
  simpa [keys] using h

theorem Build.ext_keys {a b : Build} (h : ∀ k ∈ Build.keys, k.read a = k.read b) : a = b := by
  rw [keys, List.forall_mem_cons, List.forall_mem_append, forall_mem_under, forall_mem_under] at h
  obtain ⟨hdebounce, hclient, hserver⟩ := h
  obtain ⟨_, _, _⟩ := a
  obtain ⟨_, _, _⟩ := b
  rw [Build.mk.injEq]
  exact ⟨hdebounce, Target.ext_keys hclient, Target.ext_keys hserver⟩

theorem Logging.ext_keys {a b : Logging} (h : ∀ k ∈ Logging.keys, k.read a = k.read b) :
    a = b := by
  cases a
  cases b
  simpa [keys] using h

/-- There is nothing in the settings but their keys. -/
theorem ext_keys {a b : Settings} (h : ∀ k ∈ keys, k.read a = k.read b) : a = b := by
  simp only [keys, List.forall_mem_append, forall_mem_under] at h
  obtain ⟨⟨⟨⟨hserver, hworker⟩, hreload⟩, hbuild⟩, hlogging⟩ := h
  cases a
  cases b
  rw [Settings.mk.injEq]
  exact ⟨Server.ext_keys hserver, Worker.ext_keys hworker, Reload.ext_keys hreload,
    Build.ext_keys hbuild, Logging.ext_keys hlogging⟩

end DevServer.Settings
