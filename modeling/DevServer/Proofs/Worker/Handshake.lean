import DevServer.Proofs.Json.Doubles
import DevServer.Proofs.Json.Values
import DevServer.Worker.Monitor

/-!
# What makes a worker ready

A line is a ready message just when it spells an object, blanks around it apart, whose only `type` is
`ready` (`Message.ofLine?_eq_ready_iff`). How the object is spelled and what else is in it does not
matter (`Message.ofLine?_congr`).
-/

namespace DevServer.Text

/-! ## Trimming -/

/-- Nothing but white space by Unicode. -/
def Blanks (w : List Char) : Prop := ∀ c ∈ w, isBlank c = true

section
variable {w w' s : List Char}

theorem Blanks.append (hw : Blanks w) (hw' : Blanks w') : Blanks (w ++ w') :=
  List.forall_mem_append.mpr ⟨hw, hw'⟩

theorem Blanks.reverse (hw : Blanks w) : Blanks w.reverse :=
  fun c hc => hw c (List.mem_reverse.mp hc)

theorem blanks_takeWhile (s : List Char) : Blanks (s.takeWhile isBlank) :=
  fun c hc => List.all_eq_true.mp List.all_takeWhile c hc

theorem trimStart_append (hw : Blanks w) (s : List Char) : trimStart (w ++ s) = trimStart s :=
  List.dropWhile_append_of_pos hw

theorem trimEnd_append (hw : Blanks w) (s : List Char) : trimEnd (s ++ w) = trimEnd s := by
  rw [trimEnd, List.reverse_append, List.dropWhile_append_of_pos hw.reverse, trimEnd]

/-- What is left of a text, and what is taken off it. -/
theorem exists_trim (s : List Char) : ∃ lead trail, s = lead ++ (trim s ++ trail) ∧
    Blanks lead ∧ Blanks trail := by
  refine ⟨s.takeWhile isBlank, ((trimStart s).reverse.takeWhile isBlank).reverse, ?_,
    blanks_takeWhile s, (blanks_takeWhile _).reverse⟩
  rw [trim, trimEnd, ← List.reverse_append, List.takeWhile_append_dropWhile, List.reverse_reverse]
  exact (takeWhile_append_trimStart s).symm

/-- More blanks around a text are taken off as well. -/
theorem trim_surround (hw : Blanks w) (hw' : Blanks w') (s : List Char) :
    trim (w ++ (s ++ w')) = trim s := by
  have hnil : trimStart w' = [] := by simpa [trimStart] using trimStart_append hw' []
  have hend : trimStart (s ++ w') =
      if (trimStart s).isEmpty then trimStart w' else trimStart s ++ w' := List.dropWhile_append
  rw [trim, trimStart_append hw, trim, hend]
  split
  · next hs => rw [List.isEmpty_iff.mp hs, hnil]
  · exact trimEnd_append hw' _

/-- A text that neither begins nor ends with a blank is left as it is. -/
theorem trim_eq_self {c d : Char} (hc : isBlank c = false) (hd : isBlank d = false)
    (s : List Char) : trim (c :: (s ++ [d])) = c :: (s ++ [d]) := by
  rw [trim, trimStart_cons_of_not_isBlank hc]
  simp [trimEnd, hd]

end

end DevServer.Text

namespace DevServer.Worker

open Json Text

/-! ## Lines that are objects -/

/-- Blanks apart, the line spells an object of these fields: at most 127 levels deep, with `Sized`
numbers. -/
def Spells (Sized : Number → Prop) (line : String) (fields : List (String × Json)) : Prop :=
  ∃ lead body trail, line.toList = lead ++ (body ++ trail) ∧ Blanks lead ∧ Blanks trail ∧
    ValueText body (.object fields) ∧ Fits Sized 127 (.object fields)

/-- Just one field has the name `type`, and its value is `ready`. -/
def Announces (fields : List (String × Json)) : Prop :=
  ∃ before after, fields = before ++ ("type", .string "ready") :: after ∧
    ∀ f ∈ before ++ after, f.1 ≠ "type"

/-- The line is a handshake. -/
def Handshake (Sized : Number → Prop) (line : String) : Prop :=
  ∃ fields, Spells Sized line fields ∧ Announces fields

section
variable {line line' : String} {fields fields' : List (String × Json)}

theorem blanks_of_spaces {w : List Char} (hw : Spaces w) : Blanks w := by
  have hall : ∀ c ∈ [' ', '\n', '\t', '\r'], isBlank c = true := by simp [isBlank]
  exact fun c hc => hall c (hw c hc)

theorem trim_eq_of_valueText {body : List Char} (h : ValueText body (.object fields)) :
    trim body = body := by
  cases h with
  | object => exact trim_eq_self (by decide) (by decide) _

theorem parse?_trimmed_eq_some_iff :
    Json.parse? (trimmed line) = some (.object fields) ↔ Spells Number.Finite line fields := by
  rw [parse?_eq_some_iff, trimmed, String.toList_ofList]
  constructor
  · rintro ⟨w, body, w', heq, hw, hw', hbody, hfits⟩
    obtain ⟨lead, trail, hline, hlead, htrail⟩ := exists_trim line.toList
    refine ⟨lead ++ w, body, w' ++ trail, ?_, hlead.append (blanks_of_spaces hw),
      (blanks_of_spaces hw').append htrail, hbody, hfits⟩
    rw [hline, heq]
    simp only [List.append_assoc]
  · rintro ⟨lead, body, trail, hline, hlead, htrail, hbody, hfits⟩
    refine ⟨[], body, [], ?_, spaces_nil, spaces_nil, hbody, hfits⟩
    rw [hline, trim_surround hlead htrail, trim_eq_of_valueText hbody, List.nil_append,
      List.append_nil]

theorem ofJson?_object_iff : Message.ofJson? (.object fields) = some .ready ↔
    (fields.filter (·.1 = "type")).map Prod.snd = [.string "ready"] := by
  have hvalues : (fields.filter (·.1 = "type")).map Prod.snd = valuesOf "type" fields := rfl
  rw [hvalues, Message.ofJson?]
  split <;> simp_all

theorem ofJson?_eq_ready_iff :
    Message.ofJson? (.object fields) = some .ready ↔ Announces fields := by
  rw [ofJson?_object_iff]
  exact valuesOf_eq_singleton_iff

theorem eq_of_ready_iff {a b : Option Message} (h : a = some .ready ↔ b = some .ready) : a = b := by
  rcases a with _ | ⟨⟩ <;> rcases b with _ | ⟨⟩ <;> simp_all

/-- The answer is what the fields say. -/
theorem ofLine?_of_spells (h : Spells Number.Finite line fields) :
    Message.ofLine? line = Message.ofJson? (.object fields) := by
  rw [Message.ofLine?, parse?_trimmed_eq_some_iff.mpr h, Option.bind_some]

theorem ofLine?_eq_ready_iff :
    Message.ofLine? line = some .ready ↔ Handshake Number.Finite line := by
  constructor
  · intro h
    obtain ⟨v, hv, h⟩ := Option.bind_eq_some_iff.mp h
    cases v with
    | object fields =>
      exact ⟨fields, parse?_trimmed_eq_some_iff.mp hv, ofJson?_eq_ready_iff.mp h⟩
    | _ => cases h
  · rintro ⟨fields, hs, ha⟩
    rw [ofLine?_of_spells hs, ofJson?_eq_ready_iff.mpr ha]

/-- Blanks around a line do not matter, whatever the line. -/
theorem ofLine?_surround {lead trail : List Char} (hl : Blanks lead) (ht : Blanks trail) :
    Message.ofLine? (String.ofList (lead ++ (line.toList ++ trail))) = Message.ofLine? line := by
  rw [Message.ofLine?, trimmed, String.toList_ofList, trim_surround hl ht]
  rfl

/-- What the fields named `type` are is all that matters of an object. -/
theorem ofLine?_congr (h : Spells Number.Finite line fields)
    (h' : Spells Number.Finite line' fields')
    (htype : fields.filter (·.1 = "type") = fields'.filter (·.1 = "type")) :
    Message.ofLine? line = Message.ofLine? line' := by
  have hready : Message.ofJson? (.object fields) = some .ready ↔
      Message.ofJson? (.object fields') = some .ready := by
    rw [ofJson?_object_iff, ofJson?_object_iff, htype]
  rw [ofLine?_of_spells h, ofLine?_of_spells h', eq_of_ready_iff hready]

/-- A handshake makes a starting worker ready. -/
theorem takeLine_of_handshake {m : Monitor} (hm : m.phase = .starting)
    (h : Handshake Number.Finite line) :
    m.takeLine line = { m with phase := .ready, signals := m.signals + 1 } := by
  rw [Monitor.takeLine, ofLine?_eq_ready_iff.mpr h]
  exact if_pos hm

/-- Nothing else changes a monitor that takes a line. -/
theorem takeLine_eq_self {m : Monitor}
    (h : ¬(m.phase = .starting ∧ Handshake Number.Finite line)) : m.takeLine line = m := by
  rw [← ofLine?_eq_ready_iff] at h
  unfold Monitor.takeLine
  split
  · next hr => exact if_neg fun hm => h ⟨hm, hr⟩
  · rfl

end

/-! ## The handshake -/

theorem charsText_self {s : List Char}
    (h : s.all (fun c => c ≠ '"' ∧ c ≠ '\\' ∧ 0x20 ≤ c.toNat) = true) : CharsText s s := by
  induction s with
  | nil => exact .nil
  | cons c s ih =>
    simp only [List.all_cons, Bool.and_eq_true, decide_eq_true_eq] at h
    obtain ⟨⟨hq, hb, hc⟩, hs⟩ := h
    exact .plain hq hb hc (ih hs)

/-- The field that makes a handshake, as it is usually written. -/
theorem fieldText_ready : FieldText ValueText ("\"type\":\"ready\"".toList)
    ("type", .string "ready") := by
  have hname : StringText "\"type\"".toList "type" :=
    .mk (s := "type".toList) (charsText_self (by decide))
  have hvalue : StringText "\"ready\"".toList "ready" :=
    .mk (s := "ready".toList) (charsText_self (by decide))
  exact .mk hname spaces_nil spaces_nil (.string hvalue)

/-- A line that is an object and nothing else. -/
theorem spells_object {Sized : Number → Prop} {line : String} {t : List Char}
    {fields : List (String × Json)} (hl : line.toList = '{' :: (t ++ ['}']))
    (h : ItemsText (FieldText ValueText) t fields) (hfits : ∀ f ∈ fields, Fits Sized 126 f.2) :
    Spells Sized line fields :=
  ⟨[], _, [], by rw [List.nil_append, List.append_nil, hl], List.forall_mem_nil _,
    List.forall_mem_nil _, .object h, .object hfits⟩

/-- **Exactly the handshakes make a worker ready.** Blanks around the line, how the object is spelled
and its other fields change nothing, and no other line does. A number is refused by how it is read:
by its size, but near the bound. -/
theorem handshake_exact (line : String) :
    (Message.ofLine? line = some .ready ↔ Handshake Number.Finite line) ∧
    (∀ lead trail, Blanks lead → Blanks trail →
      Message.ofLine? (String.ofList (lead ++ (line.toList ++ trail))) = Message.ofLine? line) ∧
    (∀ line' fields fields', Spells Number.Finite line fields →
      Spells Number.Finite line' fields' →
      fields.filter (·.1 = "type") = fields'.filter (·.1 = "type") →
      Message.ofLine? line = Message.ofLine? line') ∧
    (∀ m : Monitor, (m.phase = .starting ∧ Handshake Number.Finite line →
        m.takeLine line = { m with phase := .ready, signals := m.signals + 1 }) ∧
      (¬(m.phase = .starting ∧ Handshake Number.Finite line) → m.takeLine line = m)) ∧
    (∀ t n, NumberText t n →
      (n.magnitude < (1 - 1 / 2 ^ 51) * Number.infinityBound → n.Finite) ∧
      (n.Finite → n.magnitude < (1 + 1 / 2 ^ 51) * Number.infinityBound)) := by
  refine ⟨ofLine?_eq_ready_iff, fun _ _ => ofLine?_surround, fun _ _ _ => ofLine?_congr,
    fun m => ⟨fun h => takeLine_of_handshake h.1 h.2, takeLine_eq_self⟩, fun t n ht => ?_⟩
  exact ⟨Number.finite_of_lt ht.wellFormed, Number.lt_of_finite ht.wellFormed⟩

theorem handshake_exact_padded :
    Message.ofLine? "\x7b\"type\":\"ready\"\x7d" = some .ready ∧
      Message.ofLine? " \x7b\"type\":\"ready\"\x7d\r" = some .ready := by
  have h := handshake_exact "\x7b\"type\":\"ready\"\x7d"
  have hready : Message.ofLine? "\x7b\"type\":\"ready\"\x7d" = some .ready := by
    refine h.1.mpr ⟨[("type", .string "ready")], ?_, [], [], rfl, by decide⟩
    refine spells_object (t := "\"type\":\"ready\"".toList) rfl ?_ ?_
    · exact .last spaces_nil fieldText_ready spaces_nil
    · exact List.forall_mem_singleton.mpr (.string _ _)
  refine ⟨hready, ?_⟩
  rw [← hready]
  exact h.2.1 [' '] ['\r'] (by simp [Blanks, isBlank]) (by simp [Blanks, isBlank])

/-- A number below the bound whose digits and power of ten are both rounded up. -/
def belowBound : Number :=
  ⟨false, "1797693134862315708".toList, none, some (false, "290".toList)⟩

theorem numberText_belowBound : NumberText "1797693134862315708e290".toList belowBound := by
  have hwhole : WholeText "1797693134862315708".toList :=
    ⟨⟨by decide, List.all_eq_true.mp rfl⟩, by decide⟩
  have hexponent : ExponentText "e290".toList (some (false, "290".toList)) :=
    .bare (.inl rfl) ⟨by decide, List.all_eq_true.mp rfl⟩
  exact .mk (f := []) false hwhole .absent hexponent

theorem magnitude_belowBound_lt : belowBound.magnitude < Number.infinityBound := by
  have hdigits : Nat.ofDigitChars 10 (belowBound.whole ++ belowBound.fraction.getD []) 0 =
      1797693134862315708 := by decide
  obtain ⟨k, hpower, hlt⟩ : ∃ k : ℕ, belowBound.power - (belowBound.fraction.getD []).length = k ∧
      1797693134862315708 * 10 ^ k < Number.infinityBound := ⟨290, by decide, by decide +kernel⟩
  rw [Number.magnitude, hdigits, hpower, zpow_natCast]
  exact_mod_cast hlt

/-- The number is read as infinity, though it is none. -/
theorem number_below_bound_refused :
    ¬(Message.ofLine? "\x7b\"type\":\"ready\",\"x\":1797693134862315708e290\x7d" = some .ready ↔
      Handshake (fun n => n.magnitude < Number.infinityBound)
        "\x7b\"type\":\"ready\",\"x\":1797693134862315708e290\x7d") := by
  have hrefused : Message.ofLine?
      "\x7b\"type\":\"ready\",\"x\":1797693134862315708e290\x7d" = none := by decide +kernel
  have hname : StringText "\"x\"".toList "x" := .mk (s := ['x']) (charsText_self (by decide))
  have hx : FieldText ValueText "\"x\":1797693134862315708e290".toList ("x", .number belowBound) :=
    .mk hname spaces_nil spaces_nil (.number numberText_belowBound)
  have hspells : Spells (fun n => n.magnitude < Number.infinityBound)
      "\x7b\"type\":\"ready\",\"x\":1797693134862315708e290\x7d"
      [("type", .string "ready"), ("x", .number belowBound)] := by
    refine spells_object (t := "\"type\":\"ready\",\"x\":1797693134862315708e290".toList) rfl ?_ ?_
    · exact .next spaces_nil fieldText_ready spaces_nil (.last spaces_nil hx spaces_nil)
    · exact List.forall_mem_cons.mpr ⟨.string _ _,
        List.forall_mem_singleton.mpr (.number _ magnitude_belowBound_lt)⟩
  intro h
  have hready := h.mpr ⟨_, hspells, [], [_], rfl, by decide⟩
  rw [hrefused] at hready
  cases hready

end DevServer.Worker
