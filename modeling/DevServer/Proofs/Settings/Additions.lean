import DevServer.Proofs.Settings.Documents

/-!
# Adding a key to a document

`Adds path v fields fields'`: the second document is the first one with the value `v` at a path where
nothing stood, in a table that was there or in a new one; it does not matter in which order the names
of a table stand. Then nothing changes at any path that is neither above nor below this one
(`Adds.at?_eq`), and where there were tables on the way there, there still are (`Adds.at?_prefix`).
-/

namespace DevServer.Settings

/-- The names of a table with what stands under them. -/
abbrev Fields := List (String × Toml)

variable {place path : List String} {name : String} {v : Toml} {fields fields' : Fields}

/-- The second table has a value under a name, and the same under the others. -/
structure Sets (name : String) (v : Toml) (fields fields' : Fields) : Prop where
  lookup : fields'.lookup name = some v
  others : fields'.filter (·.1 != name) = fields.filter (·.1 != name)

/-- The second document is the first one with a value at a path where nothing stood. -/
inductive Adds : (path : List String) → Toml → Fields → Fields → Prop where
  | key {name : String} {v : Toml} {fields fields' : Fields} (h : fields.lookup name = none)
    (hs : Sets name v fields fields') : Adds [name] v fields fields'
  /-- In the table under a name, which is new if there was none. -/
  | under {name : String} {path : List String} {v : Toml} {sub sub' fields fields' : Fields}
    (h : (fields.lookup name).getD (.table []) = .table sub) (ha : Adds path v sub sub')
    (hs : Sets name (.table sub') fields fields') : Adds (name :: path) v fields fields'

/-- A path of names that are known where they stand. -/
def Known (place : List String) : (path : List String) → Prop
  | [] => True
  | name :: path => name ∈ keyNames place ∧ Known (place ++ [name]) path

/-! ### One table -/

theorem lookup_filter {n : String} (hn : n ≠ name) (fields : Fields) :
    (fields.filter (·.1 != name)).lookup n = fields.lookup n := by
  induction fields with
  | nil => rfl
  | cons f fields ih =>
    obtain ⟨m, w⟩ := f
    by_cases hm : m = name
    · subst hm
      have hnm : (n == m) = false := beq_eq_false_iff_ne.mpr hn
      simpa [List.lookup_cons, hnm] using ih
    · simp [hm, List.lookup_cons, ih]

theorem Sets.lookup_eq (h : Sets name v fields fields') (n : String) :
    fields'.lookup n = if n = name then some v else fields.lookup n := by
  split
  case isTrue hn => rw [hn, h.lookup]
  case isFalse hn => rw [← lookup_filter hn fields', h.others, lookup_filter hn]

/-- Setting a known name leaves the unknown ones as they are. -/
theorem Sets.unknown (h : Sets name v fields fields') {names : List String} (hn : name ∈ names) :
    fields'.filter (!names.contains ·.1) = fields.filter (!names.contains ·.1) := by
  have hf (l : Fields) :
      l.filter (!names.contains ·.1) = (l.filter (·.1 != name)).filter (!names.contains ·.1) := by
    rw [List.filter_filter]
    refine List.filter_congr fun f _ => ?_
    by_cases hm : f.1 = name <;> simp [hm, hn]
  rw [hf, h.others, ← hf]

theorem sectionAt?_sets (hn : name ∈ keyNames place) (h : Sets name v fields fields') :
    sectionAt? place (.table fields') =
      (sectionAt? place (.table fields)).map fun s n => if n = name then some v else s n := by
  simp only [sectionAt?, section?, Toml.fields?, Option.bind_eq_bind, Option.bind_some, h.unknown hn]
  split
  · rw [Option.map_some]
    exact congrArg some (funext h.lookup_eq)
  · rfl

theorem sectionAt?_empty (place : List String) :
    sectionAt? place (.table []) = some fun _ => none := rfl

theorem at?_of_sectionAt?_eq_none (h : sectionAt? place v = none) (name : String)
    (path : List String) : at? place (name :: path) v = none := by
  simp [at?, h]

theorem at?_empty (place : List String) (name : String) (path : List String) :
    at? place (name :: path) (.table []) = none := by
  rw [at?_cons (sectionAt?_empty place)]
  rfl

theorem section_eq {s : Section} (hs : sectionAt? place (.table fields) = some s) (name : String) :
    s name = fields.lookup name := by
  simp only [sectionAt?, section?, Toml.fields?, Option.bind_eq_bind, Option.bind_some] at hs
  split at hs
  · cases hs
    rfl
  · cases hs

/-! ### Whole documents -/

/-- Below a name, one looks into the table under it, which may as well be empty if there is none. -/
theorem at?_cons_cons {s : Section} (hs : sectionAt? place (.table fields) = some s) {sub : Fields}
    (h : (fields.lookup name).getD (.table []) = .table sub) (n : String) (q : List String) :
    at? place (name :: n :: q) (.table fields) = at? (place ++ [name]) (n :: q) (.table sub) := by
  rw [at?_cons hs, section_eq hs]
  cases hl : fields.lookup name with
  | none =>
    rw [hl, Option.getD_none] at h
    rw [← h, at?_empty, Option.bind_none]
  | some w =>
    rw [hl, Option.getD_some] at h
    rw [h, Option.bind_some]

/-- Nothing changes under other names. -/
theorem Sets.at?_cons (h : Sets name v fields fields') (hk : name ∈ keyNames place) {n : String}
    (hn : n ≠ name) (q : List String) :
    at? place (n :: q) (.table fields') = at? place (n :: q) (.table fields) := by
  have hsec' := sectionAt?_sets hk h
  cases hsec : sectionAt? place (.table fields) with
  | none =>
    rw [hsec, Option.map_none] at hsec'
    rw [at?_of_sectionAt?_eq_none hsec, at?_of_sectionAt?_eq_none hsec']
  | some s =>
    rw [hsec, Option.map_some] at hsec'
    rw [Settings.at?_cons hsec, Settings.at?_cons hsec', if_neg hn]

/-- The tables above a path are tables. -/
def TablesAbove (place path : List String) (v : Toml) : Prop :=
  ∀ q w, q <+: path → q ≠ path → at? place q v = some w → (sectionAt? (place ++ q) w).isSome

theorem TablesAbove.sectionAt? (h : TablesAbove place (name :: path) v) :
    (sectionAt? place v).isSome := by
  have := h [] v List.nil_prefix (List.cons_ne_nil name path).symm rfl
  rwa [List.append_nil] at this

theorem TablesAbove.under {sub : Fields} (h : TablesAbove place (name :: path) (.table fields))
    (hsub : (fields.lookup name).getD (.table []) = .table sub) :
    TablesAbove (place ++ [name]) path (.table sub) := by
  intro q w hq hne hw
  obtain ⟨s, hs⟩ := Option.isSome_iff_exists.mp h.sectionAt?
  cases hl : fields.lookup name with
  | none =>
    rw [hl, Option.getD_none] at hsub
    rw [← hsub] at hw
    obtain _ | ⟨n, q⟩ := q
    · cases hw
      rfl
    · rw [at?_empty] at hw
      cases hw
  | some t =>
    rw [hl, Option.getD_some] at hsub
    have hat : at? place (name :: q) (.table fields) = some w := by
      rw [at?_cons hs, section_eq hs, hl, hsub, Option.bind_some, hw]
    have := h (name :: q) w (List.cons_prefix_cons.mpr ⟨rfl, hq⟩) (by simpa using hne) hat
    rwa [List.append_cons] at this

namespace Adds

/-- Nothing changes at paths that are neither above nor below the one of the value. -/
theorem at?_eq (h : Adds path v fields fields') (hk : Known place path) {q : List String}
    (hq : ¬q <+: path) (hq' : ¬path <+: q) :
    at? place q (.table fields') = at? place q (.table fields) := by
  induction h generalizing place q with
  | @key name v fields fields' h hs =>
    obtain _ | ⟨n, q⟩ := q
    · exact absurd List.nil_prefix hq
    refine hs.at?_cons hk.1 ?_ q
    rintro rfl
    exact hq' (List.cons_prefix_cons.mpr ⟨rfl, List.nil_prefix⟩)
  | @under name path v sub sub' fields fields' h ha hs ih =>
    obtain _ | ⟨n, q⟩ := q
    · exact absurd List.nil_prefix hq
    by_cases hn : n = name
    · subst hn
      rw [List.cons_prefix_cons] at hq hq'
      obtain _ | ⟨m, q⟩ := q
      · exact absurd ⟨rfl, List.nil_prefix⟩ hq
      have hsub := ih hk.2 (fun hp => hq ⟨rfl, hp⟩) (fun hp => hq' ⟨rfl, hp⟩)
      have hsec' := sectionAt?_sets hk.1 hs
      cases hsec : sectionAt? place (.table fields) with
      | none =>
        rw [hsec, Option.map_none] at hsec'
        rw [at?_of_sectionAt?_eq_none hsec, at?_of_sectionAt?_eq_none hsec']
      | some s =>
        rw [hsec, Option.map_some] at hsec'
        rw [at?_cons_cons hsec h, at?_cons_cons hsec' (by rw [hs.lookup]; rfl), hsub]
    · exact hs.at?_cons hk.1 hn q

/-- On the way to the value there are tables, and then the value. -/
theorem at?_prefix (h : Adds path v fields fields') (hk : Known place path)
    (ht : TablesAbove place path (.table fields)) {q : List String} (hq : q <+: path) :
    ∃ w, at? place q (.table fields') = some w ∧
      if q = path then w = v else (sectionAt? (place ++ q) w).isSome := by
  induction h generalizing place q with
  | @key name v fields fields' h hs =>
    obtain ⟨s, hsec⟩ := Option.isSome_iff_exists.mp ht.sectionAt?
    have hsec' := sectionAt?_sets hk.1 hs
    rw [hsec, Option.map_some] at hsec'
    obtain _ | ⟨n, q⟩ := q
    · exact ⟨.table fields', rfl, by simp [hsec']⟩
    · obtain ⟨rfl, hnil⟩ := List.cons_prefix_cons.mp hq
      obtain rfl := List.prefix_nil.mp hnil
      exact ⟨v, by simp [at?_singleton hsec'], by simp⟩
  | @under name path v sub sub' fields fields' h ha hs ih =>
    obtain ⟨s, hsec⟩ := Option.isSome_iff_exists.mp ht.sectionAt?
    have hsec' := sectionAt?_sets hk.1 hs
    rw [hsec, Option.map_some] at hsec'
    obtain _ | ⟨n, q⟩ := q
    · exact ⟨.table fields', rfl, by simp [hsec']⟩
    · obtain ⟨rfl, hrest⟩ := List.cons_prefix_cons.mp hq
      obtain ⟨w, hw, hlast⟩ := ih hk.2 (ht.under h) hrest
      refine ⟨w, ?_, ?_⟩
      · rw [at?_cons hsec', if_pos rfl, Option.bind_some, hw]
      · simpa using hlast

end Adds

end DevServer.Settings
