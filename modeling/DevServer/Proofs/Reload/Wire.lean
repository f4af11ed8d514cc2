import DevServer.Proofs.Json.Writing
import DevServer.Reload.Event

/-!
# Events on the wire

`Denotes j e` says which documents stand for an event: an object that gives the name once, and for a
client build its number, or an array of the two. A text is read as the event of its document
(`parse?_eq_some_iff`), and of the many texts of an event one is written (`wire_round_trip`).
-/

namespace DevServer.Reload.Event

open Json

/-- The build of the event, if it has one, is a 64-bit word. -/
def IsWord (e : Event) : Prop := ∀ build, e = .clientBuilt build → build < 2 ^ 64

/-- A word as it is written in digits, without a sign, a fraction or an exponent. -/
inductive Numeral : Json → ℕ → Prop where
  | mk {digits : List Char} {n : ℕ} (h : Nat.ofDigitChars 10 digits 0 = n) (hn : n < 2 ^ 64) :
    Numeral (.number ⟨false, digits, none, none⟩) n

/-- The documents of an event. Objects may have other fields. -/
inductive Denotes : Json → Event → Prop where
  | serverUpdate {fields : List (String × Json)}
    (h : Once "type" (.string "rsc:update") fields) : Denotes (.object fields) .serverUpdate
  | clientBuilt {fields : List (String × Json)} {n : Json} {build : ℕ}
    (h : Once "type" (.string "client:built") fields) (hb : Once "build_id" n fields)
    (hn : Numeral n build) : Denotes (.object fields) (.clientBuilt build)
  | serverUpdateItems : Denotes (.array [.string "rsc:update"]) .serverUpdate
  | clientBuiltItems {n : Json} {build : ℕ} (hn : Numeral n build) :
    Denotes (.array [.string "client:built", n]) (.clientBuilt build)

/-- The name that a document gives, as an object or as an array. -/
inductive Named (name : String) : Json → Prop where
  | object {fields : List (String × Json)} (h : Once "type" (.string name) fields) :
    Named name (.object fields)
  | array (rest : List Json) : Named name (.array (.string name :: rest))

/-! ## Reading -/

section
variable {j : Json} {e : Event} {name : String} {builds : List Json}

theorem word?_eq_some_iff {n : Number} {k : ℕ} : n.word? = some k ↔ Numeral (.number n) k := by
  constructor
  · intro h
    unfold Number.word? at h
    split at h
    · dsimp only at h
      split at h
      · next hlt =>
        cases h
        exact .mk rfl hlt
      · cases h
    · cases h
  · rintro ⟨rfl, hn⟩
    exact if_pos hn

theorem ofParts?_eq_some_iff : ofParts? name builds = some e ↔
    name = "client:built" ∧ ∃ n build, builds = [n] ∧ Numeral n build ∧ e = .clientBuilt build := by
  constructor
  · intro h
    unfold ofParts? at h
    split at h
    · obtain ⟨build, hn, rfl⟩ := Option.map_eq_some_iff.mp h
      exact ⟨rfl, _, build, rfl, word?_eq_some_iff.mp hn, rfl⟩
    · cases h
  · rintro ⟨rfl, n, build, rfl, hn, rfl⟩
    cases n with
    | number n => rw [ofParts?, word?_eq_some_iff.mpr hn, Option.map_some]
    | _ => cases hn

/-- **A document is read as the event that it denotes.** -/
theorem ofJson?_eq_some_iff : ofJson? j = some e ↔ Denotes j e := by
  constructor
  · intro h
    unfold ofJson? at h
    split at h
    · split at h
      · next htype =>
        cases h
        exact .serverUpdate (valuesOf_eq_singleton_iff.mp htype)
      · next htype =>
        obtain ⟨rfl, n, build, hbuilds, hn, rfl⟩ := ofParts?_eq_some_iff.mp h
        exact .clientBuilt (valuesOf_eq_singleton_iff.mp htype)
          (valuesOf_eq_singleton_iff.mp hbuilds) hn
      · cases h
    · cases h
      exact .serverUpdateItems
    · obtain ⟨rfl, n, build, rfl, hn, rfl⟩ := ofParts?_eq_some_iff.mp h
      exact .clientBuiltItems hn
    · cases h
  · rintro (htype | ⟨htype, hbuild, hn⟩ | _ | hn)
    · rw [ofJson?, valuesOf_eq_singleton_iff.mpr htype]
      rfl
    · rw [ofJson?, valuesOf_eq_singleton_iff.mpr htype, valuesOf_eq_singleton_iff.mpr hbuild]
      exact ofParts?_eq_some_iff.mpr ⟨rfl, _, _, rfl, hn, rfl⟩
    · rfl
    · exact ofParts?_eq_some_iff.mpr ⟨rfl, _, _, rfl, hn, rfl⟩

theorem parse?_eq_some_iff {s : String} :
    parse? s = some e ↔ ∃ j, Json.parse? s = some j ∧ Denotes j e := by
  simp only [parse?, Option.bind_eq_some_iff, ofJson?_eq_some_iff]

theorem Denotes.isWord (h : Denotes j e) : e.IsWord := by
  cases h with
  | serverUpdate | serverUpdateItems => exact fun _ h => by cases h
  | clientBuilt _ _ hn | clientBuiltItems hn =>
    rintro _ ⟨⟩
    cases hn
    assumption

theorem named_object_iff {fields : List (String × Json)} {given : String}
    (h : Once "type" (.string given) fields) : Named name (.object fields) ↔ name = given := by
  constructor
  · rintro ⟨hname⟩
    rw [← valuesOf_eq_singleton_iff] at h hname
    simpa using hname.symm.trans h
  · rintro rfl
    exact .object h

theorem named_array_iff {given : String} {rest : List Json} :
    Named name (.array (.string given :: rest)) ↔ name = given := by
  constructor
  · rintro ⟨⟩
    rfl
  · rintro rfl
    exact .array rest

/-- A document denotes an event of the one name that it gives. -/
theorem Denotes.named_iff (h : Denotes j e) : Named name j ↔ name = e.name := by
  cases h with
  | serverUpdate h | clientBuilt h => exact named_object_iff h
  | serverUpdateItems | clientBuiltItems => exact named_array_iff

end

/-! ## Writing -/

theorem numeral_ofNat {n : ℕ} (h : n < 2 ^ 64) : Numeral (.number (.ofNat n)) n :=
  .mk Nat.ofDigitChars_ten_toDigits h

theorem denotes_toJson {e : Event} (h : e.IsWord) : Denotes e.toJson e := by
  cases e with
  | serverUpdate => exact .serverUpdate ⟨[], [], rfl, List.forall_mem_nil _⟩
  | clientBuilt build =>
    refine .clientBuilt ⟨[], _, rfl, ?_⟩ ⟨[_], [], rfl, ?_⟩ (numeral_ofNat (h build rfl))
    · simp
    · simp

theorem fits_toJson {e : Event} (h : e.IsWord) : Fits Number.IsWord nesting e.toJson := by
  cases e with
  | serverUpdate => exact .object (List.forall_mem_singleton.mpr (.string _ _))
  | clientBuilt build =>
    exact .object (List.forall_mem_cons.mpr ⟨.string _ _,
      List.forall_mem_singleton.mpr (.number _ (Number.isWord_ofNat (h build rfl)))⟩)

theorem parse?_wire {e : Event} (h : e.IsWord) : parse? e.wire = some e :=
  parse?_eq_some_iff.mpr ⟨e.toJson, parse?_render (fits_toJson h), denotes_toJson h⟩

/-! ## Round trips -/

/-- The text spells the document, with white space around it. -/
def Spelled (s : String) (j : Json) : Prop :=
  ∃ w t w', s.toList = w ++ (t ++ w') ∧ Spaces w ∧ Spaces w' ∧ ValueText t j ∧
    Fits Number.Finite 127 j

theorem wire_inj {e e' : Event} (h : e.IsWord) (h' : e'.IsWord) : e.wire = e'.wire ↔ e = e' := by
  refine ⟨fun heq => Option.some.inj ?_, congrArg wire⟩
  rw [← parse?_wire h, heq, parse?_wire h']

/-- **Events are read as they were written, on one line, and every text of an event is read.** What
is read from any text is written in the same way for all texts of the event, and it has the name that
the text gives. -/
theorem wire_round_trip :
    (∀ e : Event, e.IsWord →
      parse? e.wire = some e ∧ '\n' ∉ e.wire.toList ∧ '\r' ∉ e.wire.toList) ∧
    (∀ (s : String) (e : Event), parse? s = some e ↔ ∃ j, Spelled s j ∧ Denotes j e) ∧
    ∀ (s : String) (e : Event), parse? s = some e →
      e.IsWord ∧ parse? e.wire = some e ∧
      (∃ j, Spelled s j ∧ ∀ name, Named name j ↔ name = e.name) ∧
      ∀ (s' : String) (e' : Event), parse? s' = some e' → (e.wire = e'.wire ↔ e = e') := by
  have hspelled (s : String) (e : Event) :
      parse? s = some e ↔ ∃ j, Spelled s j ∧ Denotes j e := by
    simp only [parse?_eq_some_iff, Json.parse?_eq_some_iff]
    rfl
  have hword {s : String} {e : Event} (h : parse? s = some e) : e.IsWord := by
    obtain ⟨j, -, hj⟩ := parse?_eq_some_iff.mp h
    exact hj.isWord
  refine ⟨fun e h => ?_, hspelled, fun s e h => ?_⟩
  · have hline : Printable e.wire.toList := printable_render (fits_toJson h)
    have hbreak (c : Char) (hc : c.toNat < 0x20) : c ∉ e.wire.toList := fun hmem => by
      have := hline c hmem
      omega
    exact ⟨parse?_wire h, hbreak '\n' (by decide), hbreak '\r' (by decide)⟩
  · obtain ⟨j, hs, hj⟩ := (hspelled s e).mp h
    exact ⟨hword h, parse?_wire (hword h), ⟨j, hs, fun _ => hj.named_iff⟩,
      fun s' e' h' => wire_inj (hword h) (hword h')⟩

/-- The largest number of a build, written in another order, with an escape, blanks and another
field. -/
theorem wire_round_trip_respelled :
    let text :=
      " \x7b\"build_id\" : 18446744073709551615, \"x\":[], \"type\":\"client\\u003abuilt\"\x7d\n"
    IsWord (.clientBuilt 18446744073709551615) ∧
      parse? (wire (.clientBuilt 18446744073709551615)) = some (.clientBuilt 18446744073709551615) ∧
      parse? text = some (.clientBuilt 18446744073709551615) ∧
      ∃ j, Spelled text j ∧ ∀ name, Named name j ↔ name = "client:built" := by
  intro text
  have hword : IsWord (.clientBuilt 18446744073709551615) := by
    rintro _ ⟨⟩
    decide
  have htext : parse? text = some (.clientBuilt 18446744073709551615) := by decide +kernel
  exact ⟨hword, (wire_round_trip.1 _ hword).1, htext, (wire_round_trip.2.2 _ _ htext).2.2.1⟩

end DevServer.Reload.Event
