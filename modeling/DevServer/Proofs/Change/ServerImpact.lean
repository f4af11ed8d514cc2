import DevServer.Change.ServerImpact
import DevServer.Files.Walk
import DevServer.Proofs.Source.Directives
import DevServer.Proofs.Text.Utf8
import Mathlib

/-!
# Which changes touch the server

What a change is asked about is said here without the functions that answer: which paths are those
of modules (`IsModulePath`), which files have no text (`Files.Unreadable`), and which texts declare
a client module (`OpensClient`). `Change.Touches` puts them together, and a batch touches the server
just when one of its changes does (`touchesServer_iff_exists`).
-/

namespace DevServer

/-! ## Paths of modules -/

namespace Path

section
variable {name stem ext : Bytes}

theorem extensionOf_eq (name : Bytes) : extensionOf name =
    if name.length - (name.reverse.takeWhile (· != 0x2E)).reverse.length ≤ 1 then none
    else some (name.reverse.takeWhile (· != 0x2E)).reverse := rfl

theorem takeWhile_reverse_append (h : 0x2E ∉ ext) (rest : Bytes) :
    (ext.reverse ++ rest).takeWhile (· != 0x2E) = ext.reverse ++ rest.takeWhile (· != 0x2E) := by
  refine List.takeWhile_append_of_pos fun b hb => ?_
  exact bne_iff_ne.mpr fun hdot => h (hdot ▸ List.mem_reverse.mp hb)

theorem extensionOf_of_notMem (h : 0x2E ∉ name) : extensionOf name = none := by
  have hall : name.reverse.takeWhile (· != 0x2E) = name.reverse := by
    simpa using takeWhile_reverse_append h []
  rw [extensionOf_eq, hall, if_pos (by simp)]

/-- A name with a dot has an extension unless nothing stands in front of the last dot. -/
theorem extensionOf_append (h : 0x2E ∉ ext) :
    extensionOf (stem ++ 0x2E :: ext) = if stem = [] then none else some ext := by
  have hback : (stem ++ 0x2E :: ext).reverse = ext.reverse ++ 0x2E :: stem.reverse := by simp
  have hafter : ((stem ++ 0x2E :: ext).reverse.takeWhile (· != 0x2E)).reverse = ext := by
    rw [hback, takeWhile_reverse_append h]
    simp
  have hbefore : (stem ++ 0x2E :: ext).length - ext.length ≤ 1 ↔ stem = [] := by
    rw [← List.length_eq_zero_iff, List.length_append, List.length_cons]
    omega
  rw [extensionOf_eq, hafter]
  simp only [hbefore]

/-- The extension is what follows the last dot, with something in front of it. -/
theorem extensionOf_eq_some_iff : extensionOf name = some ext ↔
    ∃ stem, name = stem ++ 0x2E :: ext ∧ stem ≠ [] ∧ 0x2E ∉ ext := by
  constructor
  · intro h
    by_cases hdot : 0x2E ∈ name.reverse
    · obtain ⟨back, front, hname, hback⟩ := List.eq_append_cons_of_mem hdot
      have hext : 0x2E ∉ back.reverse := fun hm => hback (List.mem_reverse.mp hm)
      have hsplit : name = front.reverse ++ 0x2E :: back.reverse := by
        rw [← List.reverse_reverse name, hname]
        simp
      rw [hsplit, extensionOf_append hext] at h
      split at h
      · cases h
      · next hne =>
        cases h
        exact ⟨front.reverse, hsplit, hne, hext⟩
    · rw [extensionOf_of_notMem fun hm => hdot (List.mem_reverse.mpr hm)] at h
      cases h
  · rintro ⟨stem, rfl, hne, hext⟩
    rw [extensionOf_append hext, if_neg hne]

theorem fileName?_eq_some_iff {p : Path} :
    p.fileName? = some name ↔ p.components.getLast? = some (.name name) := by
  unfold fileName?
  constructor
  · intro h
    split at h
    · next hlast =>
      cases h
      exact hlast
    · cases h
  · intro h
    rw [h]

end

end Path

namespace Source

/-- The path ends in a name with one of these extensions, and the name is more than that. -/
def IsModulePath (p : Path) : Prop :=
  ∃ stem, ∃ ext ∈ ["js", "jsx", "ts", "tsx", "mjs", "cjs", "mts", "cts"],
    stem ≠ [] ∧ p.components.getLast? = some (.name (stem ++ 0x2E :: Text.encode ext))

theorem dot_notMem_scriptExtensions : ∀ ext ∈ scriptExtensions, 0x2E ∉ Text.encode ext := by
  decide +kernel

theorem isScript_iff {p : Path} : isScript p = true ↔ IsModulePath p := by
  have hread : isScript p = true ↔
      ∃ ext ∈ scriptExtensions, p.extension? = some (Text.encode ext) := by
    have hext (ext : String) : p.extension?.bind Text.decode? = some ext ↔
        p.extension? = some (Text.encode ext) := by
      simp only [Option.bind_eq_some_iff, Text.decode?_eq_some_iff, exists_eq_right']
    unfold isScript
    constructor
    · intro h
      split at h
      · next ext he => exact ⟨ext, List.contains_iff_mem.mp h, (hext ext).mp he⟩
      · cases h
    · rintro ⟨ext, hmem, he⟩
      rw [(hext ext).mpr he]
      exact List.contains_iff_mem.mpr hmem
  have hname (ext : Bytes) : p.extension? = some ext ↔ ∃ stem, stem ≠ [] ∧
      p.components.getLast? = some (.name (stem ++ 0x2E :: ext)) ∧ 0x2E ∉ ext := by
    simp only [Path.extension?, Option.bind_eq_some_iff, Path.fileName?_eq_some_iff,
      Path.extensionOf_eq_some_iff]
    constructor
    · rintro ⟨_, hlast, stem, rfl, hne, hdot⟩
      exact ⟨stem, hne, hlast, hdot⟩
    · rintro ⟨stem, hne, hlast, hdot⟩
      exact ⟨_, hlast, stem, rfl, hne, hdot⟩
  rw [hread]
  constructor
  · rintro ⟨ext, hmem, he⟩
    obtain ⟨stem, hne, hlast, -⟩ := (hname _).mp he
    exact ⟨stem, ext, hmem, hne, hlast⟩
  · rintro ⟨stem, ext, hmem, hne, hlast⟩
    exact ⟨ext, hmem, (hname _).mpr ⟨stem, hne, hlast, dot_notMem_scriptExtensions ext hmem⟩⟩

/-! ## Client modules -/

/-- Among the directives of the text is `use client`, and `use server` is not in front of it. -/
def OpensClient (source : String) : Prop :=
  ∃ s before after, Remaining source.toList s ∧
    Prologue ((before ++ "use client" :: after).map String.toList) s ∧ "use server" ∉ before

theorem ModuleKind.ofDirective?_eq_client_iff {d : String} :
    ofDirective? d = some .client ↔ d = "use client" := by
  unfold ofDirective?
  split <;> simp_all

theorem ModuleKind.ofDirective?_eq_none {d : String} (hc : d ≠ "use client") (hs : d ≠ "use server") :
    ofDirective? d = none := by
  unfold ofDirective?
  split <;> simp_all

/-- The first boundary directive is `use client` just when one is not behind `use server`. -/
theorem ModuleKind.findSome?_eq_client_iff {ds : List String} :
    ds.findSome? ofDirective? = some .client ↔
      ∃ before after, ds = before ++ "use client" :: after ∧ "use server" ∉ before := by
  constructor
  · intro h
    obtain ⟨before, d, after, rfl, hd, hbefore⟩ := List.findSome?_eq_some_iff.mp h
    rw [ofDirective?_eq_client_iff.mp hd]
    refine ⟨before, after, rfl, fun hs => ?_⟩
    cases hbefore _ hs
  · rintro ⟨before, after, rfl, hs⟩
    induction before with
    | nil => rfl
    | cons d before ih =>
      rw [List.cons_append, List.findSome?_cons]
      obtain ⟨hd, hrest⟩ := not_or.mp (mt List.mem_cons.mpr hs)
      by_cases hc : d = "use client"
      · rw [ofDirective?_eq_client_iff.mpr hc]
      · rw [ofDirective?_eq_none hc (Ne.symm hd)]
        exact ih hrest

theorem ofSource_eq_client_iff {source : String} :
    ModuleKind.ofSource source = .client ↔ OpensClient source := by
  have hfind : ModuleKind.ofSource source = .client ↔
      (directives source).findSome? ModuleKind.ofDirective? = some .client := by
    rw [ModuleKind.ofSource]
    cases (directives source).findSome? ModuleKind.ofDirective? <;> simp
  have hds (ds : List String) : directives source = ds ↔
      statements (dropHashbang (Text.dropMark source.toList)) = ds.map String.toList := by
    rw [directives]
    constructor
    · rintro rfl
      simp [Function.comp_def]
    · intro h
      simp [h, Function.comp_def]
  rw [hfind, ModuleKind.findSome?_eq_client_iff]
  constructor
  · rintro ⟨before, after, hd, hs⟩
    exact ⟨_, before, after, dropHashbang_dropMark_eq_iff.mp rfl,
      statements_eq_iff.mp ((hds _).mp hd), hs⟩
  · rintro ⟨s, before, after, hrem, hpro, hs⟩
    rw [← dropHashbang_dropMark_eq_iff] at hrem
    rw [← hrem, ← statements_eq_iff] at hpro
    exact ⟨before, after, (hds _).mpr hpro, hs⟩

end Source

/-! ## Files without a text -/

namespace Files

/-- What reading the path gives is this text. -/
def HasText (t : Files) (cwd : Nat) (p : Path) (source : String) : Prop :=
  t.read cwd p.bytes = .ok (Text.encode source)

/-- The path leads nowhere, to a directory, or to a file whose bytes are not UTF-8. -/
inductive Unreadable (t : Files) (cwd : Nat) (p : Path) : Prop where
  | missing {cause : Failure.Cause} (h : t.find cwd p.bytes true = .error cause)
  | directory {n parent mode changed : Nat} {entries : List (Bytes × Nat)}
    (h : t.find cwd p.bytes true = .ok n)
    (hn : t.node? n = some ⟨.directory parent entries, mode, changed⟩)
  | invalid {n mode changed : Nat} {bytes : Bytes} (h : t.find cwd p.bytes true = .ok n)
    (hn : t.node? n = some ⟨.file bytes, mode, changed⟩) (hb : ∀ s, Text.encode s ≠ bytes)

section
variable {t : Files} {cwd : Nat} {p : Path}

theorem read_of_error {cause : Failure.Cause} (h : t.find cwd p.bytes true = .error cause) :
    t.read cwd p.bytes = .error cause := by
  rw [read, h]
  rfl

theorem read_of_node {n : Nat} (h : t.find cwd p.bytes true = .ok n) :
    t.read cwd p.bytes = match t.node? n with
      | some ⟨.file bytes, _, _⟩ => .ok bytes
      | some ⟨.directory _ _, _, _⟩ => .error .isDirectory
      | _ => .ok [] := by
  rw [read, h]
  rfl

/-- A path without a text is unreadable. -/
theorem unreadable_iff : t.Unreadable cwd p ↔ ∀ source, ¬t.HasText cwd p source := by
  constructor
  · rintro (h | ⟨h, hn⟩ | ⟨h, hn, hb⟩) source htext
    · rw [HasText, read_of_error h] at htext
      cases htext
    · rw [HasText, read_of_node h, hn] at htext
      cases htext
    · rw [HasText, read_of_node h, hn] at htext
      cases htext
      exact hb source rfl
  · intro hnone
    cases h : t.find cwd p.bytes true with
    | error cause => exact .missing h
    | ok n =>
      simp only [HasText, read_of_node h] at hnone
      split at hnone
      · next bytes mode changed hn =>
        exact .invalid h hn fun s hs => hnone s (by rw [hs])
      · next hn => exact .directory h hn
      · exact absurd (congrArg Except.ok (Text.encode_ofList []).symm) (hnone "")

theorem readText_eq_some_iff {source : String} :
    t.readText cwd p.bytes = some source ↔ t.HasText cwd p source := by
  rw [readText, HasText, Option.bind_eq_some_iff]
  simp only [Text.decode?_eq_some_iff, exists_eq_right']
  cases t.read cwd p.bytes <;> simp [Except.toOption]

theorem readText_eq_none_iff : t.readText cwd p.bytes = none ↔ t.Unreadable cwd p := by
  rw [unreadable_iff, Option.eq_none_iff_forall_ne_some]
  exact forall_congr' fun _ => not_congr readText_eq_some_iff

end

end Files

/-! ## Batches -/

/-- The path is a module's, and it has been removed, has no text, or is not a client module. -/
def Change.Touches (t : Files) (cwd : Nat) (c : Change) : Prop :=
  Source.IsModulePath c.path ∧ (c.kind = .removed ∨ t.Unreadable cwd c.path ∨
    ∃ source, t.HasText cwd c.path source ∧ ¬Source.OpensClient source)

theorem Source.ModuleKind.affectsServerOutput_iff {kind : ModuleKind} :
    kind.affectsServerOutput = true ↔ kind ≠ .client := by
  cases kind <;> decide

theorem Change.touchesServer_iff {t : Files} {cwd : Nat} {c : Change} :
    c.touchesServer (fun p => t.readText cwd p.bytes) = true ↔ c.Touches t cwd := by
  simp only [Change.touchesServer, Change.Touches, Bool.and_eq_true, Bool.or_eq_true, beq_iff_eq,
    Source.isScript_iff]
  refine and_congr Iff.rfl (or_congr Iff.rfl ?_)
  simp only [← Files.readText_eq_none_iff, ← Files.readText_eq_some_iff,
    ← Source.ofSource_eq_client_iff]
  cases t.readText cwd c.path.bytes with
  | none => simp
  | some source => simp [Source.ModuleKind.affectsServerOutput_iff]

/-- Where there is a text, it decides. -/
theorem Change.touches_iff_of_text {t : Files} {cwd : Nat} {c : Change} {source : String}
    (h : t.HasText cwd c.path source) : c.Touches t cwd ↔
      Source.IsModulePath c.path ∧ (c.kind = .removed ∨ ¬Source.OpensClient source) := by
  refine and_congr Iff.rfl (or_congr Iff.rfl ?_)
  constructor
  · rintro (hnone | ⟨other, hother, hserver⟩)
    · exact absurd h (Files.unreadable_iff.mp hnone source)
    · rw [← Files.readText_eq_some_iff] at h hother
      rwa [Option.some_inj.mp (h.symm.trans hother)]
  · exact fun hserver => .inr ⟨source, h, hserver⟩

/-- **A batch touches the server just when one of its changes does**, so neither the order of the
changes nor how often one is reported makes a difference, nor in which batches they come. -/
theorem touchesServer_iff_exists (t : Files) (cwd : Nat) :
    let touches := touchesServer fun p => t.readText cwd p.bytes
    (∀ changes, touches changes = true ↔ ∃ c ∈ changes, c.Touches t cwd) ∧
    touches [] = false ∧
    (∀ xs ys, (∀ c, c ∈ xs ↔ c ∈ ys) → touches xs = touches ys) ∧
    ∀ batches : List (List Change), touches batches.flatten = batches.any touches := by
  intro touches
  have hiff (changes : List Change) :
      touches changes = true ↔ ∃ c ∈ changes, c.Touches t cwd := by
    simp only [touches, touchesServer, List.any_eq_true, Change.touchesServer_iff]
  refine ⟨hiff, rfl, fun xs ys hsame => ?_, fun batches => List.any_flatten⟩
  rw [Bool.eq_iff_iff, hiff, hiff]
  simp only [hsame]

/-- A client module, a module of the server, and one whose bytes are no text. -/
def Files.mixed : Files where
  nodes := #[
    ⟨.directory Files.top [(Text.encode "button.tsx", 1), (Text.encode "page.tsx", 2),
      (Text.encode "broken.ts", 3)], 0o755, 0⟩,
    ⟨.file (Text.encode "'use client';\nexport const Button = 1;\n"), 0o644, 0⟩,
    ⟨.file (Text.encode "export default 1;\n"), 0o644, 0⟩,
    ⟨.file [0xFF], 0o644, 0⟩]
  news := []
  now := 0

/-- Alone the client module does not touch the server, but it does when it is removed, and each of
the others does. -/
theorem touchesServer_iff_exists_mixed :
    let touches := touchesServer fun p => Files.mixed.readText Files.top p.bytes
    let button : Change := ⟨Path.ofString "button.tsx", .modified⟩
    let page : Change := ⟨Path.ofString "page.tsx", .modified⟩
    let broken : Change := ⟨Path.ofString "broken.ts", .modified⟩
    let gone : Change := ⟨Path.ofString "button.tsx", .removed⟩
    touches [button] = false ∧ touches [gone] = true ∧ touches [button, page] = true ∧
      (Files.mixed.Unreadable Files.top broken.path ∧ touches [broken, button] = true) ∧
      (∀ c, c ∈ [page, button, page] ↔ c ∈ [button, page]) ∧
        touches [page, button, page] = touches [button, page] := by
  intro touches button page broken gone
  obtain ⟨hiff, -, hsame, -⟩ := touchesServer_iff_exists Files.mixed Files.top
  have hbutton : ¬button.Touches Files.mixed Files.top := by
    have htext : Files.mixed.readText Files.top button.path.bytes =
        some "'use client';\nexport const Button = 1;\n" := by cbv
    have hclient : Source.OpensClient "'use client';\nexport const Button = 1;\n" :=
      Source.ofSource_eq_client_iff.mp (by decide +kernel)
    rw [Change.touches_iff_of_text (Files.readText_eq_some_iff.mp htext)]
    rintro ⟨-, hremoved | hserver⟩
    · cases hremoved
    · exact hserver hclient
  have hgone : gone.Touches Files.mixed Files.top :=
    ⟨Source.isScript_iff.mp (by decide +kernel), .inl rfl⟩
  have hpage : page.Touches Files.mixed Files.top := by
    have htext : Files.mixed.readText Files.top page.path.bytes = some "export default 1;\n" := by
      cbv
    have hserver : ¬Source.OpensClient "export default 1;\n" :=
      mt Source.ofSource_eq_client_iff.mpr (by decide +kernel)
    exact (Change.touches_iff_of_text (Files.readText_eq_some_iff.mp htext)).mpr
      ⟨Source.isScript_iff.mp (by decide +kernel), .inr hserver⟩
  have hbroken : Files.mixed.Unreadable Files.top broken.path :=
    Files.readText_eq_none_iff.mp (by cbv)
  have hrepeated (c : Change) : c ∈ [page, button, page] ↔ c ∈ [button, page] := by
    simp only [List.mem_cons, List.not_mem_nil, or_false]
    rw [or_comm, or_assoc, or_self]
  refine ⟨?_, ?_, ?_, ⟨hbroken, ?_⟩, hrepeated, hsame _ _ hrepeated⟩
  · exact Bool.eq_false_iff.mpr fun h => hbutton (by simpa using (hiff [button]).mp h)
  · exact (hiff _).mpr ⟨gone, by simp, hgone⟩
  · exact (hiff _).mpr ⟨page, by simp, hpage⟩
  · exact (hiff _).mpr ⟨broken, by simp, Source.isScript_iff.mp (by decide +kernel),
      .inr (.inl hbroken)⟩

end DevServer
