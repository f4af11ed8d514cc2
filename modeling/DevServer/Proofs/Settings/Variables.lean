import DevServer.Proofs.Settings.Documents
import Mathlib

/-!
# Variables of the environment

Each variable sets one key, to what its text means for keys of this kind (`Kind.Means`, `Kind.take`).
The overrides are these variables, one by one (`implements_overrides`); since no two of them set the
same key, their order does not matter (`read_override`). So a variable that is set changes its own key
alone, and that only as its text says (`load_variable`).
-/

namespace DevServer.Settings

/-! ### What texts stand for -/

/-- The kind of values that a variable sets. -/
inductive Kind : Type → Type 1 where
  | text : Kind String
  | file : Kind (Option String)
  /-- A natural number below a bound. -/
  | number (bound : Nat) : Kind Nat
  | flag : Kind Bool
  | level : Kind Log.Threshold

/-- The text is made of digits, perhaps after a plus sign, of a number below a bound. -/
def Numeral (bound : Nat) (v : String) (n : Nat) : Prop :=
  ∃ ds : List Char, (v.toList = ds ∨ v.toList = '+' :: ds) ∧ ds ≠ [] ∧
    (∀ c ∈ ds, c.isDigit = true) ∧ Nat.ofDigitChars 10 ds 0 = n ∧ n < bound

def levelNames : List (String × Log.Threshold) := [
  ("off", .off), ("error", .upTo .error), ("warn", .upTo .warn), ("warning", .upTo .warn),
  ("info", .upTo .info), ("debug", .upTo .debug), ("trace", .upTo .trace)]

namespace Kind

/-- A text stands for a value. -/
def Means {α : Type} : Kind α → String → α → Prop
  | text, v, x => x = v
  | file, v, x => x = some v
  | number bound, v, n => Numeral bound v n
  | flag, v, b => (v = "true" ∨ v = "1") ∧ b = true ∨ (v = "false" ∨ v = "0") ∧ b = false
  | level, v, l => ((Text.trimmed v).toLower, l) ∈ levelNames

/-- The value that a variable sets, in place of an old one. -/
def take {α : Type} : Kind α → String → α → α
  | text, v, _ => v
  | file, v, _ => some v
  | number bound, v, old => (natural? bound v).getD old
  | flag, v, _ => isOn v
  | level, v, _ => .ofNameLenient v

/-- Texts that stand for no number change nothing. -/
def IsNumber {α : Type} : Kind α → Prop
  | number _ => True
  | text | file | flag | level => False

/-- The value that texts have that stand for none. -/
def fallback? {α : Type} : Kind α → Option α
  | level => some (.upTo .info)
  | text | file | number _ | flag => none

end Kind

theorem natural?_eq_some_iff {bound n : Nat} {v : String} :
    natural? bound v = some n ↔ Numeral bound v n := by
  have hdigits (ds : List Char) : (if ds.isEmpty || !ds.all Char.isDigit then none
      else if Nat.ofDigitChars 10 ds 0 < bound then some (Nat.ofDigitChars 10 ds 0) else none) =
        some n ↔ ds ≠ [] ∧ (∀ c ∈ ds, c.isDigit = true) ∧ Nat.ofDigitChars 10 ds 0 = n ∧
          n < bound := by
    grind
  rw [natural?, Numeral]
  generalize v.toList = cs
  split
  case h_1 _ ds =>
    refine (hdigits ds).trans ⟨fun h => ⟨ds, .inr rfl, h⟩, ?_⟩
    rintro ⟨ds', rfl | hds, h⟩
    · exact absurd (h.2.1 '+' List.mem_cons_self) (by decide)
    · obtain rfl := (List.cons.inj hds).2
      exact h
  case h_2 _ hplus =>
    refine (hdigits cs).trans ⟨fun h => ⟨cs, .inl rfl, h⟩, ?_⟩
    rintro ⟨ds', rfl | hds, h⟩
    · exact h
    · exact absurd hds (hplus ds')

theorem ofName?_eq_some_iff {v : String} {l : Log.Threshold} :
    Log.Threshold.ofName? v = some l ↔ ((Text.trimmed v).toLower, l) ∈ levelNames := by
  rw [Log.Threshold.ofName?]
  generalize (Text.trimmed v).toLower = name
  split <;> simp_all [levelNames, eq_comm]

namespace Kind

variable {α : Type} {kind : Kind α} {v : String} {x : α}

/-- A value that a text stands for is taken. -/
theorem take_of_means (h : kind.Means v x) (old : α) : kind.take v old = x := by
  cases kind with
  | text => exact Eq.symm h
  | file => exact Eq.symm h
  | number bound =>
    rw [take, natural?_eq_some_iff.mpr h]
    rfl
  | flag =>
    rcases h with ⟨rfl | rfl, rfl⟩ | ⟨rfl | rfl, rfl⟩ <;> rfl
  | level =>
    rw [take, Log.Threshold.ofNameLenient, ofName?_eq_some_iff.mpr h]
    rfl

theorem IsNumber.take_eq (hk : kind.IsNumber) (h : ∀ x, ¬kind.Means v x) (old : α) :
    kind.take v old = old := by
  cases kind with
  | number bound =>
    have hnone : natural? bound v = none :=
      Option.eq_none_iff_forall_ne_some.mpr fun n hn => h n (natural?_eq_some_iff.mp hn)
    rw [take, hnone]
    rfl
  | text | file | flag | level => exact hk.elim

theorem take_eq_fallback (hk : kind.fallback? = some x) (h : ∀ x, ¬kind.Means v x) (old : α) :
    kind.take v old = x := by
  cases kind with
  | level =>
    have hnone : Log.Threshold.ofName? v = none :=
      Option.eq_none_iff_forall_ne_some.mpr fun l hl => h l (ofName?_eq_some_iff.mp hl)
    rw [take, Log.Threshold.ofNameLenient, hnone]
    exact Option.some.inj hk
  | text | file | number | flag => cases hk

end Kind

/-! ### Variables -/

/-- A variable that sets a key. -/
structure Variable : Type 1 where
  name : String
  key : Key Settings
  kind : Kind key.Value

/-- All variables that set keys. -/
def Variable.all : List Variable := [
  ⟨"DEVLOOP_SERVER_HOST", .under "server" server ⟨String, ["host"], (·.host), text?⟩, .text⟩,
  ⟨"DEVLOOP_SERVER_PORT", .under "server" server ⟨Nat, ["port"], (·.port), port?⟩,
    .number portBound⟩,
  ⟨"DEVLOOP_WORKER_RUNTIME", .under "worker" worker ⟨String, ["runtime"], (·.runtime), text?⟩,
    .text⟩,
  ⟨"DEVLOOP_WORKER_ARTIFACT", .under "worker" worker ⟨String, ["artifact"], (·.artifact), text?⟩,
    .text⟩,
  ⟨"DEVLOOP_WORKER_PORT", .under "worker" worker ⟨Nat, ["port"], (·.port), port?⟩,
    .number portBound⟩,
  ⟨"DEVLOOP_WORKER_READY_TIMEOUT_MS",
    .under "worker" worker ⟨Nat, ["ready_timeout_ms"], (·.readyTimeoutMs), word?⟩,
    .number wordBound⟩,
  ⟨"DEVLOOP_WORKER_SHUTDOWN_TIMEOUT_MS",
    .under "worker" worker ⟨Nat, ["shutdown_timeout_ms"], (·.shutdownTimeoutMs), word?⟩,
    .number wordBound⟩,
  ⟨"DEVLOOP_RELOAD_PATH", .under "reload" reload ⟨String, ["path"], (·.path), text?⟩, .text⟩,
  ⟨"DEVLOOP_RELOAD_HEARTBEAT_SECS",
    .under "reload" reload ⟨Nat, ["heartbeat_secs"], (·.heartbeatSecs), word?⟩,
    .number wordBound⟩,
  ⟨"DEVLOOP_RELOAD_CHANNEL_CAPACITY",
    .under "reload" reload ⟨Nat, ["channel_capacity"], (·.channelCapacity), word?⟩,
    .number wordBound⟩,
  ⟨"DEVLOOP_RELOAD_SETTLE_DELAY_MS",
    .under "reload" reload ⟨Nat, ["settle_delay_ms"], (·.settleDelayMs), word?⟩,
    .number wordBound⟩,
  ⟨"DEVLOOP_BUILD_DEBOUNCE_MS",
    .under "build" build ⟨Nat, ["debounce_ms"], (·.debounceMs), word?⟩, .number wordBound⟩,
  ⟨"DEVLOOP_BUILD_CLIENT_ENABLED",
    .under "build" build (.under "client" Build.client ⟨Bool, ["enabled"], (·.enabled), flag?⟩),
    .flag⟩,
  ⟨"DEVLOOP_BUILD_SERVER_ENABLED",
    .under "build" build (.under "server" Build.server ⟨Bool, ["enabled"], (·.enabled), flag?⟩),
    .flag⟩,
  ⟨"DEVLOOP_LOG_LEVEL",
    .under "logging" logging ⟨Log.Threshold, ["level"], (·.level), some ∘ threshold⟩, .level⟩,
  ⟨"DEVLOOP_LOG_COLORED", .under "logging" logging ⟨Bool, ["colored"], (·.colored), flag?⟩,
    .flag⟩,
  ⟨"DEVLOOP_LOG_FILE",
    .under "logging" logging ⟨Option String, ["file"], (·.file), fun v => (text? v).map some⟩,
    .file⟩]

/-- Nothing but the key at a path is set. -/
def Only (path : List String) (set : Settings → Settings) : Prop :=
  ∀ k ∈ keys, k.path ≠ path → ∀ s, k.read (set s) = k.read s

theorem only_iff {path : List String} {set : Settings → Settings} : Only path set ↔
    (∀ k ∈ Server.keys, "server" :: k.path ≠ path →
      ∀ s, k.read (set s).server = k.read s.server) ∧
    (∀ k ∈ Worker.keys, "worker" :: k.path ≠ path →
      ∀ s, k.read (set s).worker = k.read s.worker) ∧
    (∀ k ∈ Reload.keys, "reload" :: k.path ≠ path →
      ∀ s, k.read (set s).reload = k.read s.reload) ∧
    (∀ k ∈ Build.keys, "build" :: k.path ≠ path → ∀ s, k.read (set s).build = k.read s.build) ∧
    ∀ k ∈ Logging.keys, "logging" :: k.path ≠ path →
      ∀ s, k.read (set s).logging = k.read s.logging := by
  simp only [Only, keys, List.forall_mem_append, List.forall_mem_map, Key.under,
    Function.comp_apply, and_assoc]

/-- The override does to the settings what the variable says, and nothing else. -/
structure Implements (o : Override) (w : Variable) : Prop where
  name : o.name = w.name
  read : ∀ v s, w.key.read (o.apply v s) = w.kind.take v (w.key.read s)
  frame : ∀ v, Only w.key.path (o.apply v)

section Implements

variable {α : Type} {name : String} {path : List String} {read : Settings → α}
  {decode : Toml → Option α}

theorem implements_ofText {kind : Kind α} {set : String → Settings → Settings}
    (hr : ∀ v s, read (set v s) = kind.take v (read s)) (hf : ∀ v, Only path (set v)) :
    Implements (.ofText name set) ⟨name, ⟨α, path, read, decode⟩, kind⟩ := ⟨rfl, hr, hf⟩

theorem implements_ofNumber {read : Settings → Nat} {decode : Toml → Option Nat} {bound : Nat}
    {set : Nat → Settings → Settings} (hr : ∀ n s, read (set n s) = n)
    (hf : ∀ n, Only path (set n)) : Implements (.ofNumber name bound set)
      ⟨name, ⟨Nat, path, read, decode⟩, .number bound⟩ where
  name := rfl
  read v s := by
    simp only [Override.ofNumber, Kind.take]
    cases natural? bound v with
    | none => rfl
    | some n => exact hr n s
  frame v k hk hne s := by
    simp only [Override.ofNumber]
    cases natural? bound v with
    | none => rfl
    | some n => exact hf n k hk hne s

theorem implements_ofFlag {read : Settings → Bool} {decode : Toml → Option Bool}
    {set : Bool → Settings → Settings} (hr : ∀ b s, read (set b s) = b)
    (hf : ∀ b, Only path (set b)) : Implements (.ofFlag name set)
      ⟨name, ⟨Bool, path, read, decode⟩, .flag⟩ :=
  ⟨rfl, fun v => hr (isOn v), fun v => hf (isOn v)⟩

end Implements

theorem implements_overrides : List.Forall₂ Implements overrides Variable.all := by
  have text {name path} {read : Settings → String} {decode set} :=
    @implements_ofText String name path read decode .text set
  refine .cons (text (fun _ _ => rfl) ?_) <|
    .cons (implements_ofNumber (fun _ _ => rfl) ?_) <|
    .cons (text (fun _ _ => rfl) ?_) <|
    .cons (text (fun _ _ => rfl) ?_) <|
    .cons (implements_ofNumber (fun _ _ => rfl) ?_) <|
    .cons (implements_ofNumber (fun _ _ => rfl) ?_) <|
    .cons (implements_ofNumber (fun _ _ => rfl) ?_) <|
    .cons (text (fun _ _ => rfl) ?_) <|
    .cons (implements_ofNumber (fun _ _ => rfl) ?_) <|
    .cons (implements_ofNumber (fun _ _ => rfl) ?_) <|
    .cons (implements_ofNumber (fun _ _ => rfl) ?_) <|
    .cons (implements_ofNumber (fun _ _ => rfl) ?_) <|
    .cons (implements_ofFlag (fun _ _ => rfl) ?_) <|
    .cons (implements_ofFlag (fun _ _ => rfl) ?_) <|
    .cons (implements_ofText (fun _ _ => rfl) ?_) <|
    .cons (implements_ofFlag (fun _ _ => rfl) ?_) <|
    .cons (implements_ofText (fun _ _ => rfl) ?_) .nil
  all_goals
    intro v
    refine only_iff.mpr ⟨?_, ?_, ?_, ?_, ?_⟩ <;> first
      -- In another section.
      | exact fun _ _ _ _ => rfl
      | simp [Server.keys, Worker.keys, Reload.keys, Build.keys, Target.keys, Logging.keys,
          Key.under]

/-! ### Overrides, one after the other -/

theorem Variable.key_mem : ∀ w ∈ all, w.key ∈ keys := by
  simp [all, keys, Server.keys, Worker.keys, Reload.keys, Build.keys, Target.keys, Logging.keys]

theorem Variable.eq_of_name_eq {w w' : Variable} (hw : w ∈ all) (hw' : w' ∈ all)
    (h : w.name = w'.name) : w = w' := by
  have hnodup : (all.map (·.name)).Nodup := by decide
  exact List.inj_on_of_nodup_map hnodup hw hw' h

section Fold

variable {os : List Override} {ws : List Variable} {env : Environment}

theorem Implements.read_take {o : Override} {w : Variable} (h : Implements o w)
    (env : Environment) (s : Settings) : w.key.read (o.take env s) =
      (env.get? w.name).elim (w.key.read s) (w.kind.take · (w.key.read s)) := by
  rw [Override.take, h.name]
  cases env.get? w.name with
  | none => rfl
  | some v => exact h.read v s

theorem Implements.read_take_of_ne {o : Override} {w : Variable} (h : Implements o w)
    {k : Key Settings} (hk : k ∈ keys) (hne : k.path ≠ w.key.path) (env : Environment)
    (s : Settings) : k.read (o.take env s) = k.read s := by
  rw [Override.take]
  cases env.get? o.name with
  | none => rfl
  | some v => exact h.frame v k hk hne s

theorem read_foldl_of_ne (h : List.Forall₂ Implements os ws) {k : Key Settings} (hk : k ∈ keys)
    (hne : ∀ w ∈ ws, k.path ≠ w.key.path) (env : Environment) (s : Settings) :
    k.read (os.foldl (Override.take env) s) = k.read s := by
  induction h generalizing s with
  | nil => rfl
  | cons ho _ ih =>
    obtain ⟨hw, hws⟩ := List.forall_mem_cons.mp hne
    rw [List.foldl_cons, ih hws, ho.read_take_of_ne hk hw]

theorem read_foldl (h : List.Forall₂ Implements os ws) (hk : ∀ w ∈ ws, w.key ∈ keys)
    (hd : (ws.map (·.key.path)).Nodup) {w : Variable} (hw : w ∈ ws) (env : Environment)
    (s : Settings) : w.key.read (os.foldl (Override.take env) s) =
      (env.get? w.name).elim (w.key.read s) (w.kind.take · (w.key.read s)) := by
  induction h generalizing s with
  | nil => cases hw
  | @cons o w' os ws ho hos ih =>
    obtain ⟨hk', hks⟩ := List.forall_mem_cons.mp hk
    obtain ⟨hd', hds⟩ := List.nodup_cons.mp hd
    have hne : ∀ u ∈ ws, w'.key.path ≠ u.key.path := fun u hu he =>
      hd' (List.mem_map.mpr ⟨u, hu, he.symm⟩)
    rw [List.foldl_cons]
    rcases List.mem_cons.mp hw with rfl | hw
    · rw [read_foldl_of_ne hos hk' hne, ho.read_take]
    · rw [ih hks hds hw, ho.read_take_of_ne (hks w hw) (hne w hw).symm]

end Fold

/-- The keys of variables are as their variables say. -/
theorem read_override {w : Variable} (hw : w ∈ Variable.all) (s : Settings) (env : Environment) :
    w.key.read (s.override env) =
      (env.get? w.name).elim (w.key.read s) (w.kind.take · (w.key.read s)) :=
  read_foldl implements_overrides Variable.key_mem (by decide) hw env s

/-- No other key is set. -/
theorem read_override_of_ne {k : Key Settings} (hk : k ∈ keys)
    (hne : ∀ w ∈ Variable.all, k.path ≠ w.key.path) (s : Settings) (env : Environment) :
    k.read (s.override env) = k.read s :=
  read_foldl_of_ne implements_overrides hk hne env s

/-- A variable matters to no key but its own. -/
theorem read_override_congr {w : Variable} (hw : w ∈ Variable.all) {env env' : Environment}
    (h : ∀ name, name ≠ w.name → env.get? name = env'.get? name) (s : Settings) {k : Key Settings}
    (hk : k ∈ keys) (hne : k.path ≠ w.key.path) :
    k.read (s.override env) = k.read (s.override env') := by
  by_cases hset : ∃ u ∈ Variable.all, k.path = u.key.path
  · obtain ⟨u, hu, hpath⟩ := hset
    obtain rfl := eq_of_path_eq hk (Variable.key_mem u hu) hpath
    have hname : u.name ≠ w.name := fun he => hne (Variable.eq_of_name_eq hu hw he ▸ rfl)
    rw [read_override hu, read_override hu, h _ hname]
  · simp only [not_exists, not_and] at hset
    rw [read_override_of_ne hk hset, read_override_of_ne hk hset]

theorem override_eq_of_read_eq {w : Variable} (hw : w ∈ Variable.all) {env env' : Environment}
    (h : ∀ name, name ≠ w.name → env.get? name = env'.get? name) {s : Settings}
    (hown : w.key.read (s.override env) = w.key.read (s.override env')) :
    s.override env = s.override env' := by
  refine ext_keys fun k hk => ?_
  by_cases hpath : k.path = w.key.path
  · obtain rfl := eq_of_path_eq hk (Variable.key_mem w hw) hpath
    exact hown
  · exact read_override_congr hw h s hk hpath

/-! ### Loading -/

/-- Setting one variable sets no key but its own. That becomes the value that the text stands for, if
it stands for one; every other text changes nothing if the key is a number, and means `info` if it is
a level. -/
theorem load_variable {w : Variable} (hw : w ∈ Variable.all) {env env' : Environment}
    (hagree : ∀ name, name ≠ w.name → env.get? name = env'.get? name)
    (hunset : env'.get? w.name = none) {dir : Path}
    {content : Option (Except Failure.Cause Bytes)} {s : Settings}
    (h : load dir content env' = .ok s) : ∃ s', load dir content env = .ok s' ∧
      (∀ k ∈ keys, k.path ≠ w.key.path → k.read s' = k.read s) ∧
      match env.get? w.name with
      | none => s' = s
      | some v => (∀ x, w.kind.Means v x → w.key.read s' = x) ∧
          ((∀ x, ¬w.kind.Means v x) → (w.kind.IsNumber → s' = s) ∧
            ∀ x, w.kind.fallback? = some x → w.key.read s' = x) := by
  obtain ⟨t, ht⟩ | ⟨fault, hfault⟩ := load_eq dir content
  · obtain rfl : t.override env' = s := Except.ok.inj ((ht env').symm.trans h)
    refine ⟨_, ht env, fun k hk hne => read_override_congr hw hagree t hk hne, ?_⟩
    have hown := read_override hw t env
    have hown' := read_override hw t env'
    rw [hunset, Option.elim_none] at hown'
    cases hv : env.get? w.name with
    | none =>
      rw [hv, Option.elim_none] at hown
      exact override_eq_of_read_eq hw hagree (hown.trans hown'.symm)
    | some v =>
      rw [hv, Option.elim_some] at hown
      refine ⟨fun x hx => hown.trans (Kind.take_of_means hx _), fun hno => ⟨fun hnum => ?_, ?_⟩⟩
      · exact override_eq_of_read_eq hw hagree
          ((hown.trans (hnum.take_eq hno _)).trans hown'.symm)
      · exact fun x hx => hown.trans (Kind.take_eq_fallback hx hno _)
  · rw [hfault] at h
    cases h

theorem load_variable_no_number :
    load (Path.ofString "/srv") none [("DEVLOOP_WORKER_READY_TIMEOUT_MS", Text.encode "soon")] =
      .ok default := by
  let w : Variable := ⟨"DEVLOOP_WORKER_READY_TIMEOUT_MS",
    .under "worker" worker ⟨Nat, ["ready_timeout_ms"], (·.readyTimeoutMs), word?⟩,
    .number wordBound⟩
  let env : Environment := [("DEVLOOP_WORKER_READY_TIMEOUT_MS", Text.encode "soon")]
  have hw : w ∈ Variable.all := by simp [w, Variable.all]
  have hget : env.get? w.name = some "soon" := by cbv
  have hagree (name : String) (hne : name ≠ w.name) : env.get? name = Environment.get? [] name := by
    have hbeq : (name == "DEVLOOP_WORKER_READY_TIMEOUT_MS") = false := beq_eq_false_iff_ne.mpr hne
    simp only [env, Environment.get?, List.lookup_cons, hbeq]
  have hload : load (Path.ofString "/srv") none [] = .ok default := load_none (fun _ _ => rfl) _
  obtain ⟨s', hs', -, hown⟩ := load_variable hw hagree rfl hload
  rw [hget] at hown
  have hno : natural? wordBound "soon" = none := rfl
  have hsame := (hown.2 fun n hn => by
    rw [natural?_eq_some_iff.mpr hn] at hno
    cases hno).1 trivial
  rw [hs', hsame]

/-- A file that sets a level. -/
def levelFile : Bytes := Text.encode "[logging]\nlevel = 'debug'\n"

theorem fieldsOf?_levelFile :
    fieldsOf? levelFile = some [("logging", .table [("level", .string "debug")])] := by
  cbv

/-- Unknown levels mean `info`, whatever the file says. -/
theorem unknown_level_not_ignored : ¬∀ w ∈ Variable.all, ∀ (env env' : Environment) (dir : Path)
    (content : Option (Except Failure.Cause Bytes)) (s : Settings),
    (∀ name, name ≠ w.name → env.get? name = env'.get? name) → env'.get? w.name = none →
    (∀ v, env.get? w.name = some v → ∀ x, ¬w.kind.Means v x) →
    load dir content env' = .ok s → load dir content env = .ok s := by
  intro h
  let w : Variable := ⟨"DEVLOOP_LOG_LEVEL",
    .under "logging" logging ⟨Log.Threshold, ["level"], (·.level), some ∘ threshold⟩, .level⟩
  let env : Environment := [("DEVLOOP_LOG_LEVEL", Text.encode "chatty")]
  have hw : w ∈ Variable.all := by simp [w, Variable.all]
  have hget : env.get? w.name = some "chatty" := by cbv
  have hagree (name : String) (hne : name ≠ w.name) : env.get? name = Environment.get? [] name := by
    have hbeq : (name == "DEVLOOP_LOG_LEVEL") = false := beq_eq_false_iff_ne.mpr hne
    simp only [env, Environment.get?, List.lookup_cons, hbeq]
  have hlevel : Log.Threshold.ofName? "chatty" = none := by cbv
  have hno (v : String) (hv : env.get? w.name = some v) (x : Log.Threshold) : ¬w.kind.Means v x := by
    obtain rfl := Option.some.inj (hget.symm.trans hv)
    intro hx
    rw [ofName?_eq_some_iff.mpr hx] at hlevel
    cases hlevel
  have hfile : ofFields? [("logging", .table [("level", .string "debug")])] =
      some { default with logging.level := .upTo .debug } := by cbv
  have henv : Environment.SetsNothing [] := fun _ _ => rfl
  have hs := (load_eq_ok_iff henv (Path.ofString "/srv")).mpr ⟨_, fieldsOf?_levelFile, hfile⟩
  have hload := h w hw env [] _ _ _ hagree rfl hno hs
  obtain ⟨t, ht⟩ | ⟨fault, hfault⟩ := load_eq (Path.ofString "/srv") (some (.ok levelFile))
  · have hread := read_override hw t env
    have hinfo : w.kind.take "chatty" (w.key.read t) = .upTo .info :=
      Kind.take_eq_fallback rfl (hno "chatty" hget) _
    rw [hget, Option.elim_some, Except.ok.inj ((ht env).symm.trans hload), hinfo] at hread
    exact absurd hread (by decide : Log.Threshold.upTo .debug ≠ .upTo .info)
  · rw [hfault] at hload
    cases hload

end DevServer.Settings
