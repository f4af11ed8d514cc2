import DevServer.Build.Project
import DevServer.Proofs.Http.Patterns
import DevServer.Proofs.Reload.Buffer
import DevServer.Settings.Validate

/-!
# What valid settings start

A server starts with a channel for its events, a router and a pipeline for every target that is
enabled (`StartsUp`). Valid settings always give the pipelines. The channel also needs a capacity
whose buffer is not too large, and the router a path that is a pattern and that no probe has; the
validation looks for neither (`startsUp_iff`).
-/

namespace DevServer

namespace Settings

/-- How a target is built. -/
def Build.target (b : Build) : DevServer.Build.Target → Target
  | .client => b.client
  | .server => b.server

theorem target_refusals_subset (s : Settings) (t : DevServer.Build.Target) :
    ∃ name, (s.build.target t).refusals name ⊆ s.refusals := by
  cases t with
  | client => exact ⟨"client", fun r (hr : r ∈ s.build.client.refusals _) => by simp [refusals, hr]⟩
  | server => exact ⟨"server", fun r (hr : r ∈ s.build.server.refusals _) => by simp [refusals, hr]⟩

/-- Enabled targets of valid settings have a command. -/
theorem command_ne_nil {s : Settings} (hv : s.isValid = true) {t : DevServer.Build.Target}
    (ht : (s.build.target t).enabled = true) : (s.build.target t).command ≠ [] := by
  obtain ⟨name, hsub⟩ := target_refusals_subset s t
  have hcommand := (isValid_iff s).mp hv _ (hsub List.mem_cons_self)
  intro hnil
  simp [ht, hnil] at hcommand

/-- A server with these settings gets as far as serving and building. That it may run out of memory
for a buffer that is not too large is left out. -/
structure StartsUp (s : Settings) : Prop where
  channel : (Reload.Channel.new? s.reload.channelCapacity).isSome
  router : (Http.Router.new? s.reload.path).isSome
  pipelines : ∀ t, (s.build.target t).enabled = true → ∀ programs root files,
    (DevServer.Build.Project.open? programs t (s.build.target t).command root
      (s.build.target t).watch (s.build.debounceMs * 1000) files).isOk

/-- A pipeline is made for every command that names something to run. -/
theorem open?_isOk {words : List String} (hw : words ≠ []) (programs : Process.Programs)
    (t : DevServer.Build.Target) (root : Path) (watch : List String) (window : Nat)
    (files : Files) :
    (DevServer.Build.Project.open? programs t words root watch window files).isOk = true := by
  have hne : words.isEmpty = false := List.isEmpty_eq_false_iff.mpr hw
  simp only [DevServer.Build.Project.open?, hne]
  rfl

/-- Valid settings start a server unless the buffer of the channel is too large, or the path of the
event stream is no pattern or a probe has it. -/
theorem startsUp_iff {s : Settings} (hv : s.isValid = true) :
    s.StartsUp ↔ s.reload.channelCapacity ≤ Nat.pow 2 57 ∧ Http.IsPattern s.reload.path ∧
      s.reload.path ≠ Http.healthPath ∧ s.reload.path ≠ Http.livePath := by
  rw [← Reload.Channel.new?_isSome_iff, ← Http.Router.new?_isSome_iff]
  constructor
  · intro h
    exact ⟨h.channel, h.router⟩
  · rintro ⟨hchannel, hrouter⟩
    exact ⟨hchannel, hrouter, fun t ht programs root files =>
      open?_isOk (command_ne_nil hv ht) programs t root _ _ files⟩

theorem startsUp_default : default.isValid = true ∧ default.StartsUp := by
  have hv : default.isValid = true := by decide
  refine ⟨hv, (startsUp_iff hv).mpr ⟨by decide, ?_, by decide, by decide⟩⟩
  exact Http.isPattern_of_isPlain (by decide) (by decide) (by decide)

/-- A probe's path is valid. -/
theorem valid_not_startsUp : ¬∀ s : Settings, s.isValid = true → s.StartsUp := by
  intro h
  have hv : ({ default with reload.path := Http.healthPath } : Settings).isValid = true := by decide
  exact ((startsUp_iff hv).mp (h _ hv)).2.2.1 rfl

end Settings

end DevServer
