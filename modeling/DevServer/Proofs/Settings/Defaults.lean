import DevServer.Build.Target
import DevServer.Proofs.Settings.Additions
import Mathlib

/-!
# Defaults of missing keys

A key that a settings file does not mention is what it is without a file, but for the command of a
target that the file mentions otherwise: it is missing (`read_base_iff`). So the file may as well say
what the default is, but for a first key of a target (`missing_key`).
-/

namespace DevServer.Settings

variable {fields fields' : Fields} {v : Toml}

/-! ### Paths of keys -/

/-- Where a target is described. -/
def targetPath : DevServer.Build.Target → List String
  | .client => ["build", "client"]
  | .server => ["build", "server"]

theorem known_of_mem : ∀ p ∈ keyPaths, Known [] p := by
  simp [keyPaths, keys, Server.keys, Worker.keys, Reload.keys, Build.keys, Target.keys,
    Logging.keys, Key.under, Known, keyNames]

theorem eq_of_above : ∀ p ∈ keyPaths, ∀ q ∈ keyPaths, p <+: q → p = q := by decide

theorem not_prefix_table : ∀ p ∈ keyPaths, ∀ q ∈ tables, ¬p <+: q := by decide

theorem take_mem_tables : ∀ p ∈ keyPaths, ∀ n, n < p.length → p.take n ∈ tables := by decide

theorem mem_tables_of_above {p q : List String} (hp : p ∈ keyPaths) (hq : q <+: p) (hne : q ≠ p) :
    q ∈ tables := by
  have htake := List.prefix_iff_eq_take.mp hq
  rw [htake]
  refine take_mem_tables p hp _ (Nat.lt_of_le_of_ne hq.length_le fun hl => hne ?_)
  rw [htake, hl, List.take_length]

theorem targetPath_mem_tables (t : DevServer.Build.Target) : targetPath t ∈ tables := by
  cases t <;> decide

theorem exists_command (t : DevServer.Build.Target) :
    ∃ k ∈ keys, k.path = targetPath t ++ ["command"] := by
  have h : ∀ t, targetPath t ++ ["command"] ∈ keyPaths := by
    intro t
    cases t <;> decide
  exact List.mem_map.mp (h t)

/-! ### What is mentioned -/

/-- Something stands at a path. -/
def Mentions (fields : Fields) (path : List String) : Prop := (at? [] path (.table fields)).isSome

instance (fields : Fields) (path : List String) : Decidable (Mentions fields path) :=
  inferInstanceAs (Decidable (_ = true))

theorem at?_append (place p q : List String) (v : Toml) :
    at? place (p ++ q) v = (at? place p v).bind (at? (place ++ p) q) := by
  induction p generalizing place v with
  | nil => simp [at?]
  | cons name p ih =>
    cases hs : sectionAt? place v with
    | none => rw [List.cons_append, at?_of_sectionAt?_eq_none hs, at?_of_sectionAt?_eq_none hs]; rfl
    | some s =>
      rw [List.cons_append, at?_cons hs, at?_cons hs, Option.bind_assoc]
      refine congrArg _ (funext fun w => ?_)
      rw [ih, List.append_assoc]
      rfl

theorem Mentions.of_append {p q : List String} (h : Mentions fields (p ++ q)) :
    Mentions fields p := by
  rw [Mentions, at?_append] at h
  exact Option.isSome_of_isSome_bind h

/-- Only targets that are mentioned change what missing keys are. -/
theorem base_eq (v : Toml) : base v = { default with build := { default.build with
    client := (at? [] ["build", "client"] v).elim default.build.client fun _ => .blank
    server := (at? [] ["build", "server"] v).elim default.build.server fun _ => .blank } } := by
  have hc := at?_append [] ["build"] ["client"] v
  have hs := at?_append [] ["build"] ["server"] v
  rw [List.cons_append, List.nil_append] at hc hs
  rw [base, hc, hs]
  cases at? [] ["build"] v <;> rfl

/-- The key is the command of a target that is mentioned. -/
def LosesCommand (fields : Fields) (k : Key Settings) : Prop :=
  ∃ t, k.path = targetPath t ++ ["command"] ∧ Mentions fields (targetPath t)

/-- What missing keys are where both targets are mentioned. -/
def blankTargets : Settings :=
  { default with build := { default.build with client := .blank, server := .blank } }

/-- Missing keys are what they are by default, but for the command of a target that is mentioned. -/
theorem read_base (fields : Fields) : ∀ k ∈ keys,
    LosesCommand fields k ∧ k.read (base (.table fields)) = k.read blankTargets ∧
        k.read blankTargets ≠ k.read default ∨
      ¬LosesCommand fields k ∧ k.read (base (.table fields)) = k.read default := by
  have hex (P : DevServer.Build.Target → Prop) : (∃ t, P t) ↔ P .client ∨ P .server :=
    ⟨fun ⟨t, ht⟩ => by cases t <;> simp [ht], fun h => h.elim (⟨_, ·⟩) (⟨_, ·⟩)⟩
  simp only [base_eq, LosesCommand, hex, targetPath, Mentions]
  rcases at? [] ["build", "client"] (.table fields) with _ | c <;>
    rcases at? [] ["build", "server"] (.table fields) with _ | t <;>
    simp [keys, Server.keys, Worker.keys, Reload.keys, Build.keys, Target.keys, Logging.keys,
      Key.under, blankTargets, default, Build.default, Target.bundler, Target.blank]

theorem read_base_iff {k : Key Settings} (hk : k ∈ keys) :
    k.read (base (.table fields)) = k.read default ↔ ¬LosesCommand fields k := by
  rcases read_base fields k hk with ⟨hl, hb, hne⟩ | ⟨hl, hb⟩
  · exact iff_of_false (hb ▸ hne) (not_not_intro hl)
  · exact iff_of_true hb hl

/-! ### A key is written -/

section Written

variable {p q : List String}

theorem Shaped.tablesAbove (h : Shaped [] tables v) (hp : p ∈ keyPaths) : TablesAbove [] p v :=
  fun q w hq hne hw => h q (mem_tables_of_above hp hq hne) w hw

theorem Adds.at?_key (ha : Adds p v fields fields') (hp : p ∈ keyPaths)
    (h : Shaped [] tables (.table fields)) : at? [] p (.table fields') = some v := by
  obtain ⟨w, hw, hlast⟩ := ha.at?_prefix (known_of_mem p hp) (h.tablesAbove hp) List.prefix_rfl
  rw [if_pos rfl] at hlast
  rw [hw, hlast]

theorem Adds.at?_other (ha : Adds p v fields fields') (hp : p ∈ keyPaths) (hq : q ∈ keyPaths)
    (hne : q ≠ p) : at? [] q (.table fields') = at? [] q (.table fields) :=
  ha.at?_eq (known_of_mem p hp) (fun h => hne (eq_of_above q hq p hp h))
    fun h => hne (eq_of_above p hp q hq h).symm

theorem Adds.shaped (ha : Adds p v fields fields') (hp : p ∈ keyPaths)
    (h : Shaped [] tables (.table fields)) : Shaped [] tables (.table fields') := by
  intro q hq w hw
  by_cases hpre : q <+: p
  · have hne : q ≠ p := by
      rintro rfl
      exact not_prefix_table q hp q hq hpre
    obtain ⟨w', hw', hlast⟩ := ha.at?_prefix (known_of_mem p hp) (h.tablesAbove hp) hpre
    rw [if_neg hne] at hlast
    obtain rfl := Option.some.inj (hw.symm.trans hw')
    exact hlast
  · rw [ha.at?_eq (known_of_mem p hp) hpre (not_prefix_table p hp q hq)] at hw
    exact h q hq w hw

theorem Adds.mentions_targetPath_iff (ha : Adds p v fields fields') (hp : p ∈ keyPaths)
    (h : Shaped [] tables (.table fields)) (t : DevServer.Build.Target) :
    Mentions fields' (targetPath t) ↔ Mentions fields (targetPath t) ∨ targetPath t <+: p := by
  by_cases hpre : targetPath t <+: p
  · obtain ⟨w, hw, -⟩ := ha.at?_prefix (known_of_mem p hp) (h.tablesAbove hp) hpre
    simp only [Mentions, hw, hpre, Option.isSome_some, or_true]
  · have heq := ha.at?_eq (known_of_mem p hp) hpre
      (not_prefix_table p hp _ (targetPath_mem_tables t))
    simp only [Mentions, heq, hpre, or_false]

end Written

/-! ### Keys that are missing -/

section Missing

variable {s s' : Settings} {k : Key Settings}

theorem read_eq_base (h : ofFields? fields = some s) (hk : k ∈ keys)
    (hm : at? [] k.path (.table fields) = none) : k.read s = k.read (base (.table fields)) := by
  have hread := (ofFields?_eq_some_iff.mp h).2 k hk
  rw [hm, Option.elim_none] at hread
  exact (Option.some.inj hread).symm

theorem decode_eq_read (h : ofFields? fields = some s) (hk : k ∈ keys) {w : Toml}
    (hw : at? [] k.path (.table fields) = some w) : k.decode w = some (k.read s) := by
  have hread := (ofFields?_eq_some_iff.mp h).2 k hk
  rwa [hw, Option.elim_some] at hread

/-- A document in which the value of a missing key is written gives settings, too. -/
theorem Adds.exists_settings (ha : Adds k.path v fields fields') (h : ofFields? fields = some s)
    (hk : k ∈ keys) {x : k.Value} (hv : k.decode v = some x) :
    ∃ s', ofFields? fields' = some s' ∧ k.read s' = x := by
  have hp := path_mem_keyPaths hk
  obtain ⟨hshaped, hdecode⟩ := ofFields?_isSome_iff.mp (Option.isSome_of_eq_some h)
  have hself := ha.at?_key hp hshaped
  have hsome : (ofFields? fields').isSome := by
    refine ofFields?_isSome_iff.mpr ⟨ha.shaped hp hshaped, fun k' hk' w hw => ?_⟩
    by_cases hne : k'.path = k.path
    · obtain rfl := eq_of_path_eq hk' hk hne
      obtain rfl := Option.some.inj (hself.symm.trans hw)
      exact Option.isSome_of_eq_some hv
    · rw [ha.at?_other hp (path_mem_keyPaths hk') hne] at hw
      exact hdecode k' hk' w hw
  obtain ⟨s', hs'⟩ := Option.isSome_iff_exists.mp hsome
  have hread := decode_eq_read hs' hk hself
  exact ⟨s', hs', Option.some.inj (hread.symm.trans hv)⟩

/-- Writing the value of a missing key changes another key just if that is the command of a target
that was not mentioned before. -/
theorem Adds.read_other_iff (ha : Adds k.path v fields fields') (h : ofFields? fields = some s)
    (h' : ofFields? fields' = some s') (hk : k ∈ keys) {k' : Key Settings} (hk' : k' ∈ keys)
    (hne : k'.path ≠ k.path) : k'.read s' = k'.read s ↔
      ¬(LosesCommand fields' k' ∧ ¬LosesCommand fields k') := by
  have hshaped := (ofFields?_eq_some_iff.mp h).1
  have hp := path_mem_keyPaths hk
  have hother := ha.at?_other hp (path_mem_keyPaths hk') hne
  have hmono (hl : LosesCommand fields k') : LosesCommand fields' k' := by
    obtain ⟨t, ht, hm⟩ := hl
    exact ⟨t, ht, (ha.mentions_targetPath_iff hp hshaped t).mpr (.inl hm)⟩
  cases hw : at? [] k'.path (.table fields) with
  | some w =>
    have hread := decode_eq_read h hk' hw
    have hread' := decode_eq_read h' hk' (hother.trans hw)
    refine iff_of_true (Option.some.inj (hread'.symm.trans hread)) fun ⟨⟨t, ht, _⟩, hl⟩ => ?_
    refine hl ⟨t, ht, Mentions.of_append (q := ["command"]) ?_⟩
    rw [← ht, Mentions, hw, Option.isSome_some]
  | none =>
    rw [read_eq_base h hk' hw, read_eq_base h' hk' (hother.trans hw)]
    rcases read_base fields k' hk' with ⟨hl, hb, -⟩ | ⟨hl, hb⟩ <;>
      rcases read_base fields' k' hk' with ⟨hl', hb', hd⟩ | ⟨hl', hb'⟩
    · exact iff_of_true (hb'.trans hb.symm) fun hc => hc.2 hl
    · exact absurd (hmono hl) hl'
    · exact iff_of_false (hb' ▸ hb ▸ hd) (not_not_intro ⟨hl', hl⟩)
    · exact iff_of_true (hb'.trans hb.symm) fun hc => hl' hc.1

/-- The key is a first one of a target, and not its command. -/
def FirstOfTarget (fields : Fields) (k : Key Settings) : Prop :=
  ∃ t, targetPath t <+: k.path ∧ k.path ≠ targetPath t ++ ["command"] ∧
    ¬Mentions fields (targetPath t)

theorem Adds.read_others_iff (ha : Adds k.path v fields fields') (h : ofFields? fields = some s)
    (h' : ofFields? fields' = some s') (hk : k ∈ keys) :
    (∀ k' ∈ keys, k'.path ≠ k.path → k'.read s' = k'.read s) ↔ ¬FirstOfTarget fields k := by
  have hmentions := ha.mentions_targetPath_iff (path_mem_keyPaths hk)
    (ofFields?_eq_some_iff.mp h).1
  constructor
  · rintro hall ⟨t, hpre, hne, hm⟩
    obtain ⟨k', hk', hcommand⟩ := exists_command t
    have hne' : k'.path ≠ k.path := hcommand ▸ hne.symm
    refine (ha.read_other_iff h h' hk hk' hne').mp (hall k' hk' hne') ⟨?_, ?_⟩
    · exact ⟨t, hcommand, (hmentions t).mpr (.inr hpre)⟩
    · rintro ⟨t', ht', hm'⟩
      rw [hcommand] at ht'
      exact hm (List.append_cancel_right ht' ▸ hm')
  · intro hfirst k' hk' hne
    refine (ha.read_other_iff h h' hk hk' hne).mpr ?_
    rintro ⟨⟨t, ht, hm'⟩, hl⟩
    have hm : ¬Mentions fields (targetPath t) := fun hm => hl ⟨t, ht, hm⟩
    have hpre : targetPath t <+: k.path := ((hmentions t).mp hm').resolve_left hm
    exact hfirst ⟨t, hpre, fun he => hne (ht.trans he.symm), hm⟩

end Missing

/-! ### Files that miss keys -/

/-- A key that a settings file does not mention is what it is without a file, unless it is the command
of a target that the file mentions. If its value without a file is written into the file, no other
key changes, unless the key is a first one of a target and not its command. -/
theorem missing_key {env : Environment} (henv : env.SetsNothing) {dir : Path} {bytes : Bytes}
    {s : Settings} (h : load dir (some (.ok bytes)) env = .ok s) :
    ∃ s₀ fields, load dir none env = .ok s₀ ∧ fieldsOf? bytes = some fields ∧
      ∀ k ∈ keys, ¬Mentions fields k.path →
        (k.read s = k.read s₀ ↔ ¬LosesCommand fields k) ∧
        ∀ bytes' fields' v, fieldsOf? bytes' = some fields' → Adds k.path v fields fields' →
          k.decode v = some (k.read s₀) →
          ∃ s', load dir (some (.ok bytes')) env = .ok s' ∧ k.read s' = k.read s₀ ∧
            ((∀ k' ∈ keys, k'.path ≠ k.path → k'.read s' = k'.read s) ↔
              ¬FirstOfTarget fields k) := by
  obtain ⟨fields, hfields, hs⟩ := (load_eq_ok_iff henv _).mp h
  refine ⟨default, fields, load_none henv dir, hfields, fun k hk hm => ⟨?_, ?_⟩⟩
  · rw [read_eq_base hs hk (Option.not_isSome_iff_eq_none.mp hm)]
    exact read_base_iff hk
  · intro bytes' fields' v hfields' ha hv
    obtain ⟨s', hs', hread⟩ := ha.exists_settings hs hk hv
    exact ⟨s', (load_eq_ok_iff henv _).mpr ⟨fields', hfields', hs'⟩, hread,
      ha.read_others_iff hs hs' hk⟩

/-- A file that sets a port. -/
def portFile : Bytes := Text.encode "[server]\nport = 4000\n"

theorem fieldsOf?_portFile :
    fieldsOf? portFile = some [("server", .table [("port", .integer 4000)])] := by
  cbv

/-- The same file with the path that is the default. -/
def portAndPathFile : Bytes :=
  Text.encode "[server]\nport = 4000\n[reload]\npath = '/__rspack_hmr'\n"

theorem fieldsOf?_portAndPathFile : fieldsOf? portAndPathFile =
    some [("server", .table [("port", .integer 4000)]),
      ("reload", .table [("path", .string "/__rspack_hmr")])] := by
  cbv

theorem missing_key_path : ∃ s, load (Path.ofString "/srv") (some (.ok portFile)) [] = .ok s ∧
    load (Path.ofString "/srv") (some (.ok portAndPathFile)) [] = .ok s ∧
    s.reload.path = default.reload.path := by
  have henv : Environment.SetsNothing [] := fun _ _ => rfl
  have hload : ofFields? [("server", .table [("port", .integer 4000)])] =
      some { default with server.port := 4000 } := rfl
  have h := (load_eq_ok_iff henv (Path.ofString "/srv")).mpr
    ⟨_, fieldsOf?_portFile, hload⟩
  obtain ⟨s₀, fields, hs₀, hfields, hkeys⟩ := missing_key henv h
  obtain rfl := Except.ok.inj ((load_none henv _).symm.trans hs₀)
  obtain rfl := Option.some.inj (fieldsOf?_portFile.symm.trans hfields)
  let k : Key Settings := Key.under "reload" reload ⟨String, ["path"], (·.path), text?⟩
  have hk : k ∈ keys := by simp [k, keys, Reload.keys]
  obtain ⟨hread, hwritten⟩ := hkeys k hk (by decide)
  have hnew : Adds ["path"] (.string "/__rspack_hmr") [] [("path", .string "/__rspack_hmr")] :=
    .key rfl ⟨rfl, rfl⟩
  have ha : Adds k.path (.string "/__rspack_hmr") [("server", .table [("port", .integer 4000)])]
      [("server", .table [("port", .integer 4000)]),
        ("reload", .table [("path", .string "/__rspack_hmr")])] :=
    .under rfl hnew ⟨rfl, rfl⟩
  obtain ⟨s', hs', hk', hothers⟩ := hwritten _ _ _ fieldsOf?_portAndPathFile ha rfl
  have hfirst : ¬FirstOfTarget [("server", .table [("port", .integer 4000)])] k := by
    rintro ⟨t, hpre, -⟩
    cases t <;> revert hpre <;> decide
  have hlost : ¬LosesCommand [("server", .table [("port", .integer 4000)])] k := by
    rintro ⟨t, ht, -⟩
    cases t <;> revert ht <;> decide
  have hpath := hread.mpr hlost
  have hsame := hothers.mpr hfirst
  refine ⟨_, h, ?_, hpath⟩
  rw [hs']
  refine congrArg _ (ext_keys fun k'' hk'' => ?_)
  by_cases hne : k''.path = k.path
  · obtain rfl := eq_of_path_eq hk'' hk hne
    exact hk'.trans hpath.symm
  · exact hsame k'' hk'' hne

/-- A file that mentions a target. -/
def enabledFile : Bytes := Text.encode "[build.client]\nenabled = true\n"

theorem fieldsOf?_enabledFile : fieldsOf? enabledFile =
    some [("build", .table [("client", .table [("enabled", .boolean true)])])] := by
  cbv

/-- Mentioned targets without a command have none. -/
theorem missing_key_not_default : ¬∀ (env : Environment) (dir : Path) (bytes : Bytes)
    (s s₀ : Settings) (fields : Fields), env.SetsNothing →
    load dir (some (.ok bytes)) env = .ok s → load dir none env = .ok s₀ →
    fieldsOf? bytes = some fields → ∀ k ∈ keys, ¬Mentions fields k.path → k.read s = k.read s₀ := by
  intro h
  have henv : Environment.SetsNothing [] := fun _ _ => rfl
  have hload : ofFields? [("build", .table [("client", .table [("enabled", .boolean true)])])] =
      some { default with build := { default.build with client := .blank } } := by rfl
  have hs := (load_eq_ok_iff henv (Path.ofString "/srv")).mpr ⟨_, fieldsOf?_enabledFile, hload⟩
  let k : Key Settings := Key.under "build" build
    (Key.under "client" Build.client ⟨List String, ["command"], (·.command), texts?⟩)
  have hk : k ∈ keys := by simp [k, keys, Build.keys, Target.keys]
  have hread := h [] _ _ _ _ _ henv hs (load_none henv _) fieldsOf?_enabledFile k hk (by decide)
  exact absurd hread (by decide : ([] : List String) ≠ default.build.client.command)

end DevServer.Settings
