import DevServer.Build.Event
import DevServer.Proofs.Calendar.Timestamps
import DevServer.Proofs.Text.Utf8
import Mathlib.Data.Set.List

/-!
# Build events as texts

An event has a text just when its paths are UTF-8, and all of the event is in it: `Event.parse?` reads
the fields of the text by their names, and gives the event that was written (`parse?_render`).
-/

namespace DevServer.Build.Event

open Json

/-! ## The reader -/

/-- What is read of the one field that has the name. -/
def field? {α : Type} (name : String) (read : Json → Option α) (fields : List (String × Json)) :
    Option α :=
  match valuesOf name fields with
  | [v] => read v
  | _ => none

def target? : Json → Option Target
  | .string "client" => some .client
  | .string "server" => some .server
  | _ => none

def bool? : Json → Option Bool
  | .bool b => some b
  | _ => none

def word? : Json → Option ℕ
  | .number n => n.word?
  | _ => none

def instant? : Json → Option Instant
  | .string s => Instant.ofRfc3339? s
  | _ => none

def path? : Json → Option Path
  | .string s => some (Path.ofString s)
  | _ => none

def paths? : Json → Option (List Path)
  | .array vs => vs.mapM path?
  | _ => none

/-- The event of a document. -/
def ofJson? : Json → Option Event
  | .object fields => do
    let target ← field? "target" target? fields
    let success ← field? "success" bool? fields
    let build ← field? "build_id" word? fields
    let time ← field? "timestamp" instant? fields
    let changed ← field? "changed" paths? fields
    let touchedServer ← field? "touched_server_components" bool? fields
    return { target, success, build, time, changed, touchedServer }
  | _ => none

/-- The event of a text. -/
def parse? (text : String) : Option Event := (Json.parse? text).bind ofJson?

/-! ## Documents -/

section
variable {e : Event} {j : Json} {texts : List String}

/-- The document of an event with the texts of its paths. -/
def document (e : Event) (texts : List String) : Json :=
  .object [
    ("target", .string e.target.name),
    ("success", .bool e.success),
    ("build_id", .number (.ofNat e.build)),
    ("timestamp", .string e.time.rfc3339),
    ("changed", .array (texts.map .string)),
    ("touched_server_components", .bool e.touchedServer)]

theorem text?_eq_some_iff {p : Path} {s : String} : p.text? = some s ↔ Path.ofString s = p := by
  rw [Path.text?, Text.decode?_eq_some_iff, Path.ofString]
  constructor
  · intro h
    rw [h]
  · rintro rfl
    rfl

theorem mapM_text?_eq_some_iff {changed : List Path} :
    changed.mapM Path.text? = some texts ↔ texts.map Path.ofString = changed := by
  rw [mapM_eq_some_iff]
  induction changed generalizing texts with
  | nil => simp
  | cons p ps ih =>
    cases texts with
    | nil => simp
    | cons s texts =>
      rw [List.map_cons, List.map_cons, List.map_cons, List.cons.injEq, List.cons.injEq,
        text?_eq_some_iff, ih]

theorem toJson?_eq_some_iff : e.toJson? = some j ↔
    ∃ texts : List String, texts.map Path.ofString = e.changed ∧ j = document e texts := by
  simp only [toJson?, Option.bind_eq_bind, Option.bind_eq_some_iff, mapM_text?_eq_some_iff]
  exact exists_congr fun texts => and_congr Iff.rfl (by simp [document, eq_comm])

/-- An event has no document just when a path is not UTF-8. -/
theorem toJson?_eq_none_iff :
    e.toJson? = none ↔ ∃ p ∈ e.changed, ∀ s, Text.encode s ≠ p.bytes := by
  have htexts : (∃ texts : List String, texts.map Path.ofString = e.changed) ↔
      ∀ p ∈ e.changed, ∃ s, Path.ofString s = p :=
    Set.ext_iff.mp (Set.range_list_map Path.ofString) e.changed
  have hpath (s : String) (p : Path) : Path.ofString s = p ↔ Text.encode s = p.bytes := by
    rw [Path.ofString, Path.mk.injEq]
  have hnone : e.toJson? = none ↔ ¬∃ texts : List String, texts.map Path.ofString = e.changed := by
    rw [Option.eq_none_iff_forall_ne_some]
    constructor
    · rintro h ⟨texts, ht⟩
      exact h _ (toJson?_eq_some_iff.mpr ⟨texts, ht, rfl⟩)
    · rintro h j hj
      obtain ⟨texts, ht, -⟩ := toJson?_eq_some_iff.mp hj
      exact h ⟨texts, ht⟩
  rw [hnone, htexts]
  simp only [not_forall, not_exists, hpath, exists_prop]

/-! ## Reading back -/

/-- The number of the build is a 64-bit word, and the time is one. -/
def Proper (e : Event) : Prop := e.build < 2 ^ 64 ∧ e.time.Valid

theorem target?_name (t : Target) : target? (.string t.name) = some t := by
  cases t <;> rfl

theorem paths?_strings (texts : List String) :
    paths? (.array (texts.map .string)) = some (texts.map Path.ofString) := by
  rw [paths?, mapM_eq_some_iff, List.map_map, List.map_map]
  rfl

theorem ofJson?_document (h : e.Proper) (texts : List String) :
    ofJson? (document e texts) = some { e with changed := texts.map Path.ofString } := by
  obtain ⟨hbuild, htime⟩ := h
  have hword : word? (.number (.ofNat e.build)) = some e.build := Number.word?_ofNat hbuild
  have hinstant : instant? (.string e.time.rfc3339) = some e.time :=
    Instant.ofRfc3339?_rfc3339 htime
  simp [ofJson?, document, field?, valuesOf, target?_name, bool?, hword, hinstant, paths?_strings]

theorem fits_document (h : e.Proper) (texts : List String) :
    Fits Number.IsWord nesting (document e texts) := by
  have hchanged : Fits Number.IsWord 126 (.array (texts.map .string)) :=
    .array (List.forall_mem_map.mpr fun s _ => .string _ s)
  refine .object ?_
  simp only [List.forall_mem_cons]
  exact ⟨.string _ _, .bool _ _, .number _ (Number.isWord_ofNat h.1), .string _ _, hchanged,
    .bool _ _, List.forall_mem_nil _⟩

theorem parse?_render (h : e.Proper) (hj : e.toJson? = some j) : parse? j.render = some e := by
  obtain ⟨texts, ht, rfl⟩ := toJson?_eq_some_iff.mp hj
  rw [parse?, Json.parse?_render (fits_document h texts), Option.bind_some, ofJson?_document h, ht]

end

/-- **The text of an event determines it.** All of a proper event is read back from its text, and
its time from the timestamp, so two events are never written alike. Just the events with a path that
is not UTF-8 have no text. -/
theorem text_determines_event :
    (∀ e : Event, e.toJson? = none ↔ ∃ p ∈ e.changed, ∀ s, Text.encode s ≠ p.bytes) ∧
    (∀ (e : Event) (j : Json), e.Proper → e.toJson? = some j → parse? j.render = some e) ∧
    (∀ i : Instant, i.Valid → Instant.ofRfc3339? i.rfc3339 = some i) ∧
    ∀ (e e' : Event) (j j' : Json), e.Proper → e'.Proper → e.toJson? = some j →
      e'.toJson? = some j' → e ≠ e' → j.render ≠ j'.render := by
  refine ⟨fun _ => toJson?_eq_none_iff, fun e j h hj => parse?_render h hj,
    fun i hi => Instant.ofRfc3339?_rfc3339 hi, ?_⟩
  intro e e' j j' h h' hj hj' hne heq
  have hread := parse?_render h hj
  rw [heq, parse?_render h' hj'] at hread
  exact hne (Option.some.inj hread).symm

/-- A build at the end of the year before the year 0, in a leap second. -/
def leapSecondBuild : Event :=
  ⟨.server, true, 18446744073709551615, ⟨-62167219201, 1250000000⟩, [Path.ofString "a\n.ts"], true⟩

/-- It is read back, and a build a nanosecond later is written otherwise. -/
theorem text_determines_event_leapSecond :
    let later : Event := { leapSecondBuild with time := ⟨-62167219201, 1250000001⟩ }
    leapSecondBuild.Proper ∧ later.Proper ∧ ∃ j j', leapSecondBuild.toJson? = some j ∧
      later.toJson? = some j' ∧ parse? j.render = some leapSecondBuild ∧ j.render ≠ j'.render := by
  intro later
  have hproper : leapSecondBuild.Proper :=
    ⟨by decide, by unfold Instant.Valid; decide⟩
  have hlater : later.Proper := ⟨by decide, by unfold Instant.Valid; decide⟩
  have hj : leapSecondBuild.toJson? = some (document leapSecondBuild ["a\n.ts"]) :=
    toJson?_eq_some_iff.mpr ⟨["a\n.ts"], rfl, rfl⟩
  have hj' : later.toJson? = some (document later ["a\n.ts"]) :=
    toJson?_eq_some_iff.mpr ⟨["a\n.ts"], rfl, rfl⟩
  exact ⟨hproper, hlater, _, _, hj, hj', text_determines_event.2.1 _ _ hproper hj,
    text_determines_event.2.2.2 _ _ _ _ hproper hlater hj hj' (by decide)⟩

end DevServer.Build.Event
