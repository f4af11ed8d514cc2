import DevServer.Proofs.Settings.Keys
import DevServer.Settings.Load

/-!
# What a document says about the settings

`at?` looks into a document by a path of names, through tables in either of their forms. A reader of
tables is described (`Describes`) by the tables and the keys that it looks for, and by what it takes
for missing keys. The readers of the sections are, those of sections in sections by `Describes.under`,
and so is that of whole documents (`ofFields?_eq_some_iff`). Since keys can have any values
(`exists_read`), nothing else keeps a document from giving settings (`ofFields?_isSome_iff`). A file
gives the settings of its document, and the environment overrides them (`load_eq`, `load_eq_ok_iff`).
-/

namespace DevServer.Settings

variable {σ τ : Type} {place : List String} {name : String} {v w : Toml} {s : Section}

/-! ### Looking into a document -/

/-- The names that are known in the table at a place, in their order. -/
def keyNames : (place : List String) → List String
  | [] => ["server", "worker", "reload", "build", "logging"]
  | ["server"] => ["host", "port"]
  | ["worker"] => ["runtime", "args", "artifact", "port", "ready_timeout_ms",
    "shutdown_timeout_ms", "env"]
  | ["reload"] => ["path", "heartbeat_secs", "channel_capacity", "settle_delay_ms"]
  | ["build"] => ["debounce_ms", "client", "server"]
  | ["build", _] => ["enabled", "command", "watch"]
  | ["logging"] => ["level", "colored", "file", "dir"]
  | _ => []

/-- The table at a place. -/
def sectionAt? (place : List String) : Toml → Option Section := section? (keyNames place)

/-- What stands at a path from the table at a place. -/
def at? (place : List String) : (path : List String) → Toml → Option Toml
  | [], v => some v
  | name :: path, v => do at? (place ++ [name]) path (← (← sectionAt? place v) name)

theorem at?_cons (hs : sectionAt? place v = some s) (name : String) (path : List String) :
    at? place (name :: path) v = (s name).bind (at? (place ++ [name]) path) := by
  simp [at?, hs]

theorem at?_singleton (hs : sectionAt? place v = some s) (name : String) :
    at? place [name] v = s name := by
  rw [at?_cons hs]
  cases s name <;> rfl

theorem Section.get_eq (s : Section) (name : String) (decode : Toml → Option σ) (default : σ) :
    s.get name decode default = (s name).elim (some default) decode := by
  rw [Section.get]
  cases s name <;> rfl

/-! ### Documents that describe settings -/

/-- What stands where a table is expected is one. -/
def Shaped (place : List String) (tables : List (List String)) (v : Toml) : Prop :=
  ∀ path ∈ tables, ∀ w, at? place path v = some w → (sectionAt? (place ++ path) w).isSome

/-- A document gives a part of the settings that has the values at the paths of its keys, and those of
`base` where there are none. -/
def Describes (place : List String) (tables : List (List String)) (ks : List (Key σ))
    (f : Toml → Option σ) (base : Toml → σ) : Prop :=
  ∀ v x, f v = some x ↔ Shaped place tables v ∧
    ∀ k ∈ ks, (at? place k.path v).elim (some (k.read (base v))) k.decode = some (k.read x)

/-- Tables and keys of a table are described as the reader of the table reads them. -/
theorem describes_of_section {tables : List (List String)} {ks : List (Key σ)}
    {f : Toml → Option σ} {base : Toml → σ} {g : Section → Option σ}
    (hf : ∀ v, f v = (section? (keyNames place) v).bind g)
    (hg : ∀ s v x, sectionAt? place v = some s → (g s = some x ↔ Shaped place tables v ∧
      ∀ k ∈ ks, (at? place k.path v).elim (some (k.read (base v))) k.decode = some (k.read x))) :
    Describes place ([] :: tables) ks f base := by
  intro v x
  have hshaped : Shaped place ([] :: tables) v ↔
      (sectionAt? place v).isSome ∧ Shaped place tables v := by simp [Shaped, at?]
  rw [hf, hshaped]
  change (sectionAt? place v).bind g = some x ↔ _
  cases hs : sectionAt? place v with
  | none => simp
  | some s =>
    rw [Option.bind_some, hg s v x hs]
    simp

theorem Server.describes : Describes ["server"] [[]] keys ofToml? fun _ => .default := by
  refine describes_of_section (fun _ => rfl) fun s v ⟨_, _⟩ hs => ?_
  simp only [keys, List.forall_mem_cons, at?_singleton hs, Section.get_eq, Option.bind_eq_bind,
    Option.pure_def, Option.bind_eq_some_iff, Option.some.injEq, Server.mk.injEq]
  grind [Shaped]

theorem Worker.describes : Describes ["worker"] [[]] keys ofToml? fun _ => .default := by
  refine describes_of_section (fun _ => rfl) fun s v ⟨_, _, _, _, _, _, _⟩ hs => ?_
  simp only [keys, List.forall_mem_cons, at?_singleton hs, Section.get_eq, Option.bind_eq_bind,
    Option.pure_def, Option.bind_eq_some_iff, Option.some.injEq, Worker.mk.injEq]
  grind [Shaped]

theorem Reload.describes : Describes ["reload"] [[]] keys ofToml? fun _ => .default := by
  refine describes_of_section (fun _ => rfl) fun s v ⟨_, _, _, _⟩ hs => ?_
  simp only [keys, List.forall_mem_cons, at?_singleton hs, Section.get_eq, Option.bind_eq_bind,
    Option.pure_def, Option.bind_eq_some_iff, Option.some.injEq, Reload.mk.injEq]
  grind [Shaped]

theorem Target.describes (name : String) :
    Describes ["build", name] [[]] keys ofToml? fun _ => .blank := by
  refine describes_of_section (fun _ => rfl) fun s v ⟨_, _, _⟩ hs => ?_
  simp only [keys, List.forall_mem_cons, at?_singleton hs, Section.get_eq, Option.bind_eq_bind,
    Option.pure_def, Option.bind_eq_some_iff, Option.some.injEq, Target.mk.injEq]
  grind [Shaped]

theorem Logging.describes : Describes ["logging"] [[]] keys ofToml? fun _ => .default := by
  refine describes_of_section (fun _ => rfl) fun s v ⟨_, _, _, _⟩ hs => ?_
  simp only [keys, List.forall_mem_cons, at?_singleton hs, Section.get_eq, Option.bind_eq_bind,
    Option.pure_def, Option.bind_eq_some_iff, Option.some.injEq, Logging.mk.injEq]
  grind [Shaped]

/-! ### Tables in tables -/

theorem shaped_append {tables tables' : List (List String)} :
    Shaped place (tables ++ tables') v ↔ Shaped place tables v ∧ Shaped place tables' v :=
  List.forall_mem_append

theorem shaped_under {tables : List (List String)} (hs : sectionAt? place v = some s) :
    Shaped place (tables.map (name :: ·)) v ↔
      ∀ w, s name = some w → Shaped (place ++ [name]) tables w := by
  simp only [Shaped, List.forall_mem_map, at?_cons hs, Option.bind_eq_some_iff, List.append_assoc,
    List.cons_append, List.nil_append]
  grind

/-- A table under a name describes a part of what is described. -/
theorem Describes.under {tables : List (List String)} {ks : List (Key σ)} {f : Toml → Option σ}
    {base : Toml → σ} (h : Describes (place ++ [name]) tables ks f base)
    (hext : ∀ a b : σ, (∀ k ∈ ks, k.read a = k.read b) → a = b)
    (hs : sectionAt? place v = some s) (part : τ → σ) (d : σ) (b x : τ)
    (hb : part b = (s name).elim d base) :
    s.get name f d = some (part x) ↔ Shaped place (tables.map (name :: ·)) v ∧
      ∀ k ∈ ks.map (Key.under name part),
        (at? place k.path v).elim (some (k.read b)) k.decode = some (k.read x) := by
  rw [shaped_under hs, Section.get_eq]
  simp only [List.forall_mem_map, Key.under, at?_cons hs, Function.comp_apply, hb]
  cases hn : s name with
  | none =>
    simp only [Option.elim_none, Option.bind_none, Option.some.injEq, reduceCtorEq, false_implies,
      implies_true, true_and]
    exact ⟨fun he k _ => congrArg k.read he, hext d (part x)⟩
  | some w =>
    simp only [Option.elim_some, Option.bind_some, Option.some.injEq, forall_eq']
    exact h w (part x)

/-- The tables that a build section has. -/
def Build.tables : List (List String) :=
  [] :: ([[]].map ("client" :: ·) ++ [[]].map ("server" :: ·))

/-- What missing keys of a build section are: a target that is mentioned starts from the blank one. -/
def Build.base (v : Toml) : Build where
  debounceMs := Build.default.debounceMs
  client := (at? ["build"] ["client"] v).elim Build.default.client fun _ => .blank
  server := (at? ["build"] ["server"] v).elim Build.default.server fun _ => .blank

theorem Build.describes : Describes ["build"] Build.tables keys ofToml? base := by
  refine describes_of_section (fun _ => rfl) fun s v x hs => ?_
  have hclient := Describes.under (Target.describes "client") @Target.ext_keys hs
    Build.client Build.default.client (base v) x (by simp only [base, at?_singleton hs])
  have hserver := Describes.under (Target.describes "server") @Target.ext_keys hs
    Build.server Build.default.server (base v) x (by simp only [base, at?_singleton hs])
  rw [shaped_append, keys, List.forall_mem_cons, List.forall_mem_append, at?_singleton hs]
  simp only [Option.bind_eq_bind, Option.pure_def, Option.bind_eq_some_iff, Option.some.injEq]
  constructor
  · rintro ⟨_, hd, _, hc, _, he, rfl⟩
    obtain ⟨hct, hck⟩ := hclient.mp hc
    obtain ⟨hst, hsk⟩ := hserver.mp he
    exact ⟨⟨hct, hst⟩, by rwa [← Section.get_eq], hck, hsk⟩
  · rintro ⟨⟨hct, hst⟩, hd, hck, hsk⟩
    rw [← Section.get_eq] at hd
    exact ⟨_, hd, _, hclient.mpr ⟨hct, hck⟩, _, hserver.mpr ⟨hst, hsk⟩, rfl⟩

/-- The tables of the settings. -/
def tables : List (List String) :=
  [] :: ([[]].map ("server" :: ·) ++ [[]].map ("worker" :: ·) ++ [[]].map ("reload" :: ·) ++
    Build.tables.map ("build" :: ·) ++ [[]].map ("logging" :: ·))

/-- What missing keys of the settings are. -/
def base (v : Toml) : Settings :=
  { default with build := (at? [] ["build"] v).elim default.build Build.base }

/-- A document gives settings if every table is one, every key that it mentions has a value of its
kind and every other key is as `base` says. -/
theorem ofFields?_eq_some_iff {fields : List (String × Toml)} {x : Settings} :
    ofFields? fields = some x ↔ Shaped [] tables (.table fields) ∧ ∀ k ∈ keys,
      (at? [] k.path (.table fields)).elim (some (k.read (base (.table fields)))) k.decode =
        some (k.read x) := by
  refine describes_of_section (f := fun v => (section? (keyNames []) v).bind _) (fun _ => rfl)
    (fun s v x hs => ?_) (.table fields) x
  have hserver := Describes.under Server.describes @Server.ext_keys hs server
    default.server (base v) x (by cases s "server" <;> rfl)
  have hworker := Describes.under Worker.describes @Worker.ext_keys hs worker
    default.worker (base v) x (by cases s "worker" <;> rfl)
  have hreload := Describes.under Reload.describes @Reload.ext_keys hs reload
    default.reload (base v) x (by cases s "reload" <;> rfl)
  have hbuild := Describes.under Build.describes @Build.ext_keys hs build
    default.build (base v) x (by simp only [base, at?_singleton hs])
  have hlogging := Describes.under Logging.describes @Logging.ext_keys hs logging
    default.logging (base v) x (by cases s "logging" <;> rfl)
  simp only [shaped_append, keys, List.forall_mem_append, Option.bind_eq_bind, Option.pure_def,
    Option.bind_eq_some_iff, Option.some.injEq]
  constructor
  · rintro ⟨_, h1, _, h2, _, h3, _, h4, _, h5, rfl⟩
    obtain ⟨hst, hsk⟩ := hserver.mp h1
    obtain ⟨hwt, hwk⟩ := hworker.mp h2
    obtain ⟨hrt, hrk⟩ := hreload.mp h3
    obtain ⟨hbt, hbk⟩ := hbuild.mp h4
    obtain ⟨hlt, hlk⟩ := hlogging.mp h5
    exact ⟨⟨⟨⟨⟨hst, hwt⟩, hrt⟩, hbt⟩, hlt⟩, ⟨⟨⟨hsk, hwk⟩, hrk⟩, hbk⟩, hlk⟩
  · rintro ⟨⟨⟨⟨⟨hst, hwt⟩, hrt⟩, hbt⟩, hlt⟩, ⟨⟨⟨hsk, hwk⟩, hrk⟩, hbk⟩, hlk⟩
    exact ⟨_, hserver.mpr ⟨hst, hsk⟩, _, hworker.mpr ⟨hwt, hwk⟩, _, hreload.mpr ⟨hrt, hrk⟩,
      _, hbuild.mpr ⟨hbt, hbk⟩, _, hlogging.mpr ⟨hlt, hlk⟩, rfl⟩

/-! ### Documents that give settings -/

theorem Server.exists_read (g : (k : Key Server) → k.Value) : ∃ x, ∀ k ∈ Server.keys, k.read x = g k := by
  simp only [keys, List.forall_mem_cons]
  exact ⟨⟨_, _⟩, rfl, rfl, List.forall_mem_nil _⟩

theorem Worker.exists_read (g : (k : Key Worker) → k.Value) : ∃ x, ∀ k ∈ Worker.keys, k.read x = g k := by
  simp only [keys, List.forall_mem_cons]
  exact ⟨⟨_, _, _, _, _, _, _⟩, rfl, rfl, rfl, rfl, rfl, rfl, rfl, List.forall_mem_nil _⟩

theorem Reload.exists_read (g : (k : Key Reload) → k.Value) : ∃ x, ∀ k ∈ Reload.keys, k.read x = g k := by
  simp only [keys, List.forall_mem_cons]
  exact ⟨⟨_, _, _, _⟩, rfl, rfl, rfl, rfl, List.forall_mem_nil _⟩

theorem Target.exists_read (g : (k : Key Target) → k.Value) : ∃ x, ∀ k ∈ Target.keys, k.read x = g k := by
  simp only [keys, List.forall_mem_cons]
  exact ⟨⟨_, _, _⟩, rfl, rfl, rfl, List.forall_mem_nil _⟩

theorem Logging.exists_read (g : (k : Key Logging) → k.Value) : ∃ x, ∀ k ∈ Logging.keys, k.read x = g k := by
  simp only [keys, List.forall_mem_cons]
  exact ⟨⟨_, _, _, _⟩, rfl, rfl, rfl, rfl, List.forall_mem_nil _⟩

/-- Keys can have any values. -/
theorem exists_read (g : (k : Key Settings) → k.Value) : ∃ x, ∀ k ∈ keys, k.read x = g k := by
  obtain ⟨server, hserver⟩ := Server.exists_read fun k => g (k.under "server" Settings.server)
  obtain ⟨worker, hworker⟩ := Worker.exists_read fun k => g (k.under "worker" Settings.worker)
  obtain ⟨reload, hreload⟩ := Reload.exists_read fun k => g (k.under "reload" Settings.reload)
  obtain ⟨client, hclient⟩ := Target.exists_read fun k =>
    g ((k.under "client" Build.client).under "build" Settings.build)
  obtain ⟨target, htarget⟩ := Target.exists_read fun k =>
    g ((k.under "server" Build.server).under "build" Settings.build)
  obtain ⟨logging, hlogging⟩ := Logging.exists_read fun k => g (k.under "logging" Settings.logging)
  simp only [keys, Build.keys, List.map_cons, List.map_append, List.forall_mem_append,
    List.forall_mem_cons, List.forall_mem_map]
  exact ⟨⟨server, worker, reload, ⟨_, client, target⟩, logging⟩,
    ⟨⟨⟨hserver, hworker⟩, hreload⟩, rfl, hclient, htarget⟩, hlogging⟩

/-- A document gives settings if every table is one and every key that it mentions has a value of its
kind. -/
theorem ofFields?_isSome_iff {fields : List (String × Toml)} :
    (ofFields? fields).isSome ↔ Shaped [] tables (.table fields) ∧
      ∀ k ∈ keys, ∀ w, at? [] k.path (.table fields) = some w → (k.decode w).isSome := by
  rw [Option.isSome_iff_exists]
  constructor
  · rintro ⟨x, hx⟩
    obtain ⟨hshaped, hread⟩ := ofFields?_eq_some_iff.mp hx
    refine ⟨hshaped, fun k hk w hw => ?_⟩
    have hk := hread k hk
    rw [hw, Option.elim_some] at hk
    exact Option.isSome_of_eq_some hk
  · rintro ⟨hshaped, hdecode⟩
    have hvalue : ∀ k ∈ keys, ((at? [] k.path (.table fields)).elim
        (some (k.read (base (.table fields)))) k.decode).isSome := by
      intro k hk
      cases hw : at? [] k.path (.table fields) with
      | none => rfl
      | some w => exact hdecode k hk w hw
    obtain ⟨x, hx⟩ := exists_read fun k => ((at? [] k.path (.table fields)).elim
      (some (k.read (base (.table fields)))) k.decode).getD (k.read default)
    refine ⟨x, ofFields?_eq_some_iff.mpr ⟨hshaped, fun k hk => ?_⟩⟩
    rw [hx k hk]
    exact (Option.getD_of_ne_none (Option.isSome_iff_ne_none.mp (hvalue k hk)) _).symm

/-! ### Settings files -/

/-- The document that a file holds. -/
def fieldsOf? (bytes : Bytes) : Option (List (String × Toml)) := (Text.decode? bytes).bind Toml.parse?

/-- No override is set. -/
def Environment.SetsNothing (env : Environment) : Prop := ∀ o ∈ overrides, env.get? o.name = none

theorem override_eq_self {env : Environment} (h : env.SetsNothing) (s : Settings) :
    s.override env = s := by
  have hfold : ∀ os : List Override, (∀ o ∈ os, env.get? o.name = none) →
      os.foldl (Override.take env) s = s := by
    intro os ho
    induction os with
    | nil => rfl
    | cons o os ih =>
      obtain ⟨ho, hos⟩ := List.forall_mem_cons.mp ho
      rw [List.foldl_cons, Override.take, ho]
      exact ih hos
  exact hfold overrides h

theorem ofFile_eq_ok_iff (path : Path) {bytes : Bytes} {s : Settings} :
    ofFile path (.ok bytes) = .ok s ↔
      ∃ fields, fieldsOf? bytes = some fields ∧ ofFields? fields = some s := by
  rw [ofFile, fieldsOf?]
  cases ht : Text.decode? bytes with
  | none => simp
  | some text =>
    simp only [Option.bind_some]
    cases hp : Toml.parse? text with
    | none => simp
    | some fields =>
      simp only [Option.bind_some, Option.some.injEq, exists_eq_left']
      cases ofFields? fields <;> simp

/-- The environment only overrides what a file gives. -/
theorem load_eq (dir : Path) (content : Option (Except Failure.Cause Bytes)) :
    (∃ t : Settings, ∀ env, load dir content env = .ok (t.override env)) ∨
      ∃ fault, ∀ env, load dir content env = .error fault := by
  cases content with
  | none => exact .inl ⟨default, fun _ => rfl⟩
  | some content =>
    cases hf : ofFile (filePath dir) content with
    | ok t =>
      refine .inl ⟨t, fun env => ?_⟩
      simp only [load, hf]
      rfl
    | error fault =>
      refine .inr ⟨fault, fun env => ?_⟩
      simp only [load, hf]
      rfl

theorem load_eq_ok_iff {env : Environment} (h : env.SetsNothing) (dir : Path) {bytes : Bytes}
    {s : Settings} : load dir (some (.ok bytes)) env = .ok s ↔
      ∃ fields, fieldsOf? bytes = some fields ∧ ofFields? fields = some s := by
  rw [← ofFile_eq_ok_iff (filePath dir), load]
  cases ofFile (filePath dir) (.ok bytes) with
  | error fault => simp [bind, Except.bind]
  | ok t =>
    change Except.ok (t.override env) = .ok s ↔ _
    rw [override_eq_self h]

theorem load_none {env : Environment} (h : env.SetsNothing) (dir : Path) :
    load dir none env = .ok default := congrArg Except.ok (override_eq_self h default)

end DevServer.Settings
