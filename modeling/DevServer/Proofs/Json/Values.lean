import DevServer.Proofs.Json.Tokens

/-!
# Reading documents

A whole text is read just when it is a spelling of a document that is not too deep and has no number
that overflows, and white space around it (`parse?_eq_some_iff`).
-/

namespace DevServer.Json

open Text

variable {α : Type}

/-- A text that begins with neither white space nor a bracket that closes. -/
def Begins (t : List Char) : Prop := ∃ c t', t = c :: t' ∧ isSpace c = false ∧ c ∉ [']', '}']

/-- A reader takes the spellings of its items. -/
structure Reads (item : Reader α) (Item : List Char → α → Prop) : Prop where
  sound : ∀ {s a rest}, item s = some (a, rest) → ∃ t, s = t ++ rest ∧ Item t a
  complete : ∀ {t a rest}, Item t a → Stops rest → item (t ++ rest) = some (a, rest)
  begins : ∀ {t a}, Item t a → Begins t

/-! ## Lists of items -/

section
variable {item : Reader α} {Item : List Char → α → Prop} {close : Char}
  {s t w r rest : List Char} {as : List α} {a : α}

theorem not_isSpace_of_closes (hc : close ∈ [']', '}']) : isSpace close = false := by
  have hall : ∀ c ∈ [']', '}'], isSpace c = false := by simp [isSpace]
  exact hall close hc

theorem spaces_append {w w' : List Char} (hw : Spaces w) (hw' : Spaces w') : Spaces (w ++ w') :=
  List.forall_mem_append.mpr ⟨hw, hw'⟩

theorem ItemsText.prepend (hw : Spaces w) (h : ItemsText Item t as) :
    ItemsText Item (w ++ t) as := by
  cases h with
  | none hw' => exact .none (spaces_append hw hw')
  | last hw' ht hw'' =>
    rw [← List.append_assoc]
    exact .last (spaces_append hw hw') ht hw''
  | next hw' ht hw'' h =>
    rw [← List.append_assoc]
    exact .next (spaces_append hw hw') ht hw'' h

theorem readItems_last (h : item (skipSpace s) = some (a, r)) (hr : skipSpace r = close :: rest)
    (hc : close ∈ [']', '}']) : readItems item close s = some ([a], rest) := by
  have hcomma : close ≠ ',' := by rintro rfl; revert hc; decide
  rw [readItems, h]
  simp only
  split
  · next hr' => exact absurd (List.cons.inj (hr.symm.trans hr')).1 hcomma
  · next hr' =>
    obtain ⟨rfl, rfl⟩ := List.cons.inj (hr.symm.trans hr')
    exact if_pos rfl
  · next hr' => exact absurd (hr.symm.trans hr') (List.cons_ne_nil _ _)

theorem readItems_next (h : item (skipSpace s) = some (a, r)) (hr : skipSpace r = ',' :: rest)
    (hlt : rest.length < s.length) : readItems item close s =
      (readItems item close rest).map fun (as, after) => (a :: as, after) := by
  rw [readItems, h]
  simp only
  split
  · next hr' =>
    obtain ⟨-, rfl⟩ := List.cons.inj (hr.symm.trans hr')
    exact dif_pos hlt
  · next hne hr' =>
    obtain ⟨rfl, rfl⟩ := List.cons.inj (hr.symm.trans hr')
    exact absurd rfl hne
  · next hr' => exact absurd (hr.symm.trans hr') (List.cons_ne_nil _ _)

theorem of_readItems (hi : Reads item Item) (h : readItems item close s = some (as, rest)) :
    as ≠ [] ∧ ∃ t, s = t ++ close :: rest ∧ ItemsText Item t as := by
  obtain ⟨w, hw, hs⟩ : ∃ w, Spaces w ∧ s = w ++ skipSpace s := exists_spaces s
  fun_induction readItems item close s generalizing as w with
  | case1 | case3 | case5 | case6 => cases h
  | case2 s a r ha rest' hr hlt ih =>
    obtain ⟨⟨as', after⟩, h', h⟩ := Option.map_eq_some_iff.mp h
    obtain ⟨rfl, rfl⟩ := Prod.mk.inj h
    obtain ⟨t, ht, hit⟩ := hi.sound ha
    obtain ⟨w', hw', hr'⟩ := exists_spaces r
    obtain ⟨w'', hw'', hs''⟩ := exists_spaces rest'
    obtain ⟨hne, ts, hts, his⟩ := ih h' w'' hw'' hs''
    obtain ⟨b, bs, rfl⟩ := List.exists_cons_of_ne_nil hne
    refine ⟨List.cons_ne_nil _ _, w ++ (t ++ (w' ++ ',' :: ts)), ?_, .next hw hit hw' his⟩
    rw [hs, ht, hr', hr, hts]
    simp
  | case4 s a r ha rest' hne hr =>
    cases h
    obtain ⟨t, ht, hit⟩ := hi.sound ha
    obtain ⟨w', hw', hr'⟩ := exists_spaces r
    refine ⟨List.cons_ne_nil _ _, w ++ (t ++ w'), ?_, .last hw hit hw'⟩
    rw [hs, ht, hr', hr]
    simp

/-- What an item begins with, white space before it skipped. -/
theorem Reads.skipSpace (hi : Reads item Item) (hw : Spaces w) (ht : Item t a) (s : List Char) :
    skipSpace (w ++ (t ++ s)) = t ++ s := by
  obtain ⟨c, t', rfl, hc, -⟩ := hi.begins ht
  rw [skipSpace_append hw, List.cons_append, skipSpace_cons hc]

theorem ItemsText.read (hi : Reads item Item) (h : ItemsText Item t as) (hne : as ≠ [])
    (hc : close ∈ [']', '}']) (rest : List Char) :
    readItems item close (t ++ close :: rest) = some (as, rest) := by
  have hstops : Stops (close :: rest) := stops_cons (List.mem_cons_of_mem _ hc) rest
  induction h with
  | none => exact absurd rfl hne
  | @last w t w' a hw ht hw' =>
    rw [List.append_assoc, List.append_assoc]
    refine readItems_last (r := w' ++ close :: rest) ?_ ?_ hc
    · rw [hi.skipSpace hw ht]
      exact hi.complete ht (stops_append hw' hstops)
    · rw [skipSpace_append hw', skipSpace_cons (not_isSpace_of_closes hc)]
  | @next w t w' ts a b as hw ht hw' _ ih =>
    have hcomma : Stops (',' :: (ts ++ close :: rest)) := stops_cons (List.mem_cons_self ..) _
    rw [List.append_assoc, List.append_assoc, List.append_assoc, List.cons_append]
    rw [readItems_next (r := w' ++ ',' :: (ts ++ close :: rest)) (a := a),
      ih (List.cons_ne_nil _ _)]
    · rfl
    · rw [hi.skipSpace hw ht]
      exact hi.complete ht (stops_append hw' hcomma)
    · rw [skipSpace_append hw', skipSpace_cons rfl]
    · simp only [List.length_append, List.length_cons]
      omega

/-- Items begin with the first of them, the white space before it apart. -/
theorem ItemsText.exists_begins (hi : Reads item Item) (h : ItemsText Item t as) (hne : as ≠ []) :
    ∃ w c u, t = w ++ c :: u ∧ Spaces w ∧ isSpace c = false ∧ c ∉ [']', '}'] ∧
      ItemsText Item (c :: u) as := by
  cases h with
  | none => exact absurd rfl hne
  | @last w t w' a hw ht hw' =>
    obtain ⟨c, u, rfl, hspace, hclose⟩ := hi.begins ht
    exact ⟨w, c, u ++ w', rfl, hw, hspace, hclose, .last spaces_nil ht hw'⟩
  | @next w t w' ts a b as hw ht hw' h =>
    obtain ⟨c, u, rfl, hspace, hclose⟩ := hi.begins ht
    exact ⟨w, c, u ++ (w' ++ ',' :: ts), rfl, hw, hspace, hclose,
      .next spaces_nil ht hw' h⟩

/-- **Items between brackets are read up to the bracket that closes.** -/
theorem Reads.bracketed_iff (hi : Reads item Item) (hc : close ∈ [']', '}']) :
    readBracketed item close s = some (as, rest) ↔
      ∃ t, s = t ++ close :: rest ∧ ItemsText Item t as := by
  constructor
  · intro h
    obtain ⟨w, hw, hs⟩ := exists_spaces s
    unfold readBracketed at h
    split at h
    · next c r hr =>
      split at h
      · next heq =>
        cases h
        exact ⟨w, by rw [hs, hr, heq], .none hw⟩
      · obtain ⟨-, t, ht, hit⟩ := of_readItems hi h
        exact ⟨w ++ t, by rw [hs, hr, ht, List.append_assoc], hit.prepend hw⟩
    · cases h
  · rintro ⟨t, rfl, h⟩
    by_cases hne : as = []
    · subst hne
      cases h with
      | none hw =>
        simp only [readBracketed, skipSpace_append hw, skipSpace_cons (not_isSpace_of_closes hc),
          if_true]
    · obtain ⟨w, c, u, rfl, hw, hspace, hclose, h⟩ := h.exists_begins hi hne
      have hread := h.read hi hne hc rest
      have hcc : c ≠ close := by rintro rfl; exact hclose hc
      rw [List.append_assoc, List.cons_append] at *
      simp only [readBracketed, skipSpace_append hw, skipSpace_cons hspace, if_neg hcc, hread]

end

/-! ## Fields -/

theorem StringText.head? {t : List Char} {v : String} (h : StringText t v) :
    t.head? = some '"' := by
  cases h
  rfl

theorem of_readField {value : Reader Json} {Value : List Char → Json → Prop}
    (hv : Reads value Value) {s rest : List Char} {f : String × Json}
    (h : readField value s = some (f, rest)) : ∃ t, s = t ++ rest ∧ FieldText Value t f := by
  simp only [readField, Option.bind_eq_bind, Option.bind_eq_some_iff, Prod.exists] at h
  obtain ⟨name, r, hname, h⟩ := h
  obtain ⟨n, rfl, hn⟩ := readString_eq_some_iff.mp hname
  obtain ⟨w, hw, hr⟩ := exists_spaces r
  split at h
  · next r' hr' =>
    obtain ⟨w', hw', hs'⟩ := exists_spaces r'
    simp only [Option.bind_eq_some_iff, Prod.exists] at h
    obtain ⟨v, after, hvalue, h⟩ := h
    cases h
    obtain ⟨t, ht, hvt⟩ := hv.sound hvalue
    refine ⟨n ++ (w ++ ':' :: (w' ++ t)), ?_, .mk hn hw hw' hvt⟩
    rw [hr, hr', hs', ht]
    simp
  · cases h

/-- A field is read where its value is. -/
theorem Reads.field {value : Reader Json} {Value : List Char → Json → Prop}
    (hv : Reads value Value) : Reads (readField value) (FieldText Value) where
  sound := of_readField hv
  complete := by
    intro t f rest h hstops
    cases h with
    | @mk n w w' t name v hn hw hw' ht =>
      have hname : ∀ r, readString (n ++ r) = some (name, r) :=
        fun r => readString_eq_some_iff.mpr ⟨n, rfl, hn⟩
      have hcolon : isSpace ':' = false := rfl
      simp [readField, hname, skipSpace_append hw, skipSpace_cons hcolon, hv.skipSpace hw' ht,
        hv.complete ht hstops]
  begins := by
    rintro _ _ ⟨hn, -, -, -⟩
    obtain ⟨t, rfl⟩ := List.head?_eq_some_iff.mp hn.head?
    exact ⟨'"', _, rfl, rfl, by decide⟩

/-! ## Values -/

section
variable {t s rest : List Char} {v : Json}

theorem NumberText.exists_head {n : Number} (h : NumberText t n) :
    ∃ c t', t = c :: t' ∧ (c = '-' ∨ c.isDigit = true) := by
  cases h with
  | mk negative hd hf hx =>
    cases negative with
    | true => exact ⟨'-', _, rfl, .inl rfl⟩
    | false =>
      obtain ⟨⟨hne, hall⟩, -⟩ := hd
      obtain ⟨d, ds, rfl⟩ := List.exists_cons_of_ne_nil hne
      exact ⟨d, _, rfl, .inr (hall d (List.mem_cons_self ..))⟩

theorem readValue_number {levels : Nat} {c : Char} (hc : c = '-' ∨ c.isDigit = true)
    (s : List Char) :
    readValue levels (c :: s) = (readNumber (c :: s)).map fun (n, rest) => (.number n, rest) := by
  have hall : ∀ c ∈ ['n', 't', 'f', '"', '[', '{'], ¬(c = '-' ∨ c.isDigit = true) := by simp
  have hother : c ∉ ['n', 't', 'f', '"', '[', '{'] := fun hmem => hall c hmem hc
  refine readValue.eq_7 _ _ ?_ ?_ ?_ ?_ ?_ ?_
  all_goals
    intros
    next heq =>
      cases heq
      revert hother
      decide

/-- The induction on the levels: the readers of items have one level less. -/
theorem of_readValue {levels : Nat} (ih : ∀ l, levels = l + 1 → Reads (readValue l)
      (fun t v => ValueText t v ∧ Fits Number.Finite l v))
    (h : readValue levels s = some (v, rest)) :
    ∃ t, s = t ++ rest ∧ ValueText t v ∧ Fits Number.Finite levels v := by
  rw [readValue.eq_def] at h
  split at h
  · cases h
    exact ⟨['n', 'u', 'l', 'l'], rfl, .null, .null _⟩
  · cases h
    exact ⟨['t', 'r', 'u', 'e'], rfl, .true, .bool _ _⟩
  · cases h
    exact ⟨['f', 'a', 'l', 's', 'e'], rfl, .false, .bool _ _⟩
  · obtain ⟨⟨str, after⟩, hs, h⟩ := Option.map_eq_some_iff.mp h
    cases h
    obtain ⟨t, ht, hst⟩ := readString_eq_some_iff.mp hs
    exact ⟨t, ht, .string hst, .string _ _⟩
  · next l r =>
    obtain ⟨⟨vs, after⟩, hb, h⟩ := Option.map_eq_some_iff.mp h
    cases h
    obtain ⟨t, rfl, ht⟩ := ((ih l rfl).bracketed_iff (by decide)).mp hb
    obtain ⟨hvs, hfits⟩ := itemsText_and_iff.mp ht
    exact ⟨'[' :: (t ++ [']']), by simp, .array hvs, .array hfits⟩
  · next l r =>
    obtain ⟨⟨fs, after⟩, hb, h⟩ := Option.map_eq_some_iff.mp h
    cases h
    obtain ⟨t, rfl, ht⟩ := ((ih l rfl).field.bracketed_iff (by decide)).mp hb
    rw [fieldText_and] at ht
    obtain ⟨hfs, hfits⟩ := itemsText_and_iff.mp ht
    exact ⟨'{' :: (t ++ ['}']), by simp, .object hfs, .object hfits⟩
  · obtain ⟨⟨n, after⟩, hn, h⟩ := Option.map_eq_some_iff.mp h
    cases h
    obtain ⟨t, rfl, ht, ho⟩ := of_readNumber hn
    exact ⟨t, rfl, .number ht, .number _ ho⟩

theorem ValueText.readValue {levels : Nat} (ih : ∀ l, levels = l + 1 → Reads (readValue l)
      (fun t v => ValueText t v ∧ Fits Number.Finite l v))
    (h : ValueText t v) (hfits : Fits Number.Finite levels v) (hr : Stops rest) :
    readValue levels (t ++ rest) = some (v, rest) := by
  cases h with
  | null | true | false => simp [Json.readValue]
  | number h =>
    cases hfits with
    | number _ ho =>
      obtain ⟨c, t', rfl, hc⟩ := h.exists_head
      rw [List.cons_append, readValue_number hc, ← List.cons_append, h.read ho hr]
      rfl
  | @string _ str h =>
    have hs : readString (t ++ rest) = some (str, rest) := readString_eq_some_iff.mpr ⟨t, rfl, h⟩
    obtain ⟨t', rfl⟩ := List.head?_eq_some_iff.mp h.head?
    rw [List.cons_append] at hs ⊢
    simp [Json.readValue, hs]
  | @array t vs h =>
    cases hfits with
    | @array l _ hfits =>
      have hb : readBracketed (Json.readValue l) ']' (t ++ ']' :: rest) = some (vs, rest) :=
        ((ih l rfl).bracketed_iff (by decide)).mpr ⟨t, rfl, itemsText_and_iff.mpr ⟨h, hfits⟩⟩
      simp [Json.readValue, hb]
  | @object t fs h =>
    cases hfits with
    | @object l _ hfits =>
      have hfields := itemsText_and_iff.mpr ⟨h, hfits⟩
      rw [← fieldText_and] at hfields
      have hb : readBracketed (readField (Json.readValue l)) '}' (t ++ '}' :: rest) =
          some (fs, rest) := ((ih l rfl).field.bracketed_iff (by decide)).mpr ⟨t, rfl, hfields⟩
      simp [Json.readValue, hb]

theorem ValueText.begins (h : ValueText t v) : Begins t := by
  cases h with
  | null | true | false | array | object => exact ⟨_, _, rfl, rfl, by decide⟩
  | number h =>
    obtain ⟨c, t', rfl, hc⟩ := h.exists_head
    refine ⟨c, t', rfl, ?_, ?_⟩
    · refine Bool.eq_false_iff.mpr fun hspace => ?_
      have hall : ∀ c ∈ [' ', '\n', '\t', '\r'], ¬(c = '-' ∨ c.isDigit) := by simp
      exact hall c (isSpace_iff.mp hspace) hc
    · have hall : ∀ c ∈ [']', '}'], ¬(c = '-' ∨ c.isDigit) := by simp
      exact fun hclose => hall c hclose hc
  | string h =>
    obtain ⟨t', rfl⟩ := List.head?_eq_some_iff.mp h.head?
    exact ⟨'"', t', rfl, rfl, by decide⟩

end

/-- **A value is read as long as it fits.** -/
theorem reads_value (levels : Nat) : Reads (readValue levels)
    (fun t v => ValueText t v ∧ Fits Number.Finite levels v) := by
  induction levels with
  | zero =>
    exact ⟨of_readValue nofun, fun h hr => h.1.readValue nofun h.2 hr, fun h => h.1.begins⟩
  | succ l ih =>
    have ih' : ∀ l', l + 1 = l' + 1 → Reads (readValue l')
        (fun t v => ValueText t v ∧ Fits Number.Finite l' v) := by
      rintro _ ⟨⟩
      exact ih
    exact ⟨of_readValue ih', fun h hr => h.1.readValue ih' h.2 hr, fun h => h.1.begins⟩

/-- **Whole texts are read by what they spell.** -/
theorem parse?_eq_some_iff {s : String} {v : Json} : parse? s = some v ↔
    ∃ w t w', s.toList = w ++ (t ++ w') ∧ Spaces w ∧ Spaces w' ∧ ValueText t v ∧
      Fits Number.Finite nesting v := by
  have hv := reads_value nesting
  constructor
  · intro h
    obtain ⟨w, hw, hs⟩ := exists_spaces s.toList
    unfold parse? at h
    split at h
    · next u rest hread =>
      obtain ⟨t, ht, hvt⟩ := hv.sound hread
      obtain ⟨w', hw', hs'⟩ := exists_spaces rest
      split at h
      · next hend =>
        cases h
        rw [List.isEmpty_iff.mp hend, List.append_nil] at hs'
        exact ⟨w, t, rest, by rw [hs, ht], hw, hs'.symm ▸ hw', hvt⟩
      · cases h
    · cases h
  · rintro ⟨w, t, w', hs, hw, hw', hvt⟩
    have hread : readValue nesting (t ++ w') = some (v, w') :=
      hv.complete hvt (by simpa using stops_append hw' stops_nil)
    have hend : skipSpace w' = [] := by simpa [skipSpace] using skipSpace_append hw' []
    rw [parse?, hs, hv.skipSpace hw hvt, hread]
    simp [hend]

end DevServer.Json
