import DevServer.Json.Basic

/-!
# The grammar of JSON

`ValueText t v`: the text `t` is a spelling of the document `v`. A document has many spellings, by the
white space between tokens, by escapes in strings and by the letter and sign of exponents. What a
reader asks of the document itself, whatever its spelling, is `Fits`: how deep it is and how large its
numbers are.
-/

namespace DevServer.Json

/-- White space between tokens. -/
def Spaces (w : List Char) : Prop := ∀ c ∈ w, c ∈ [' ', '\n', '\t', '\r']

theorem spaces_nil : Spaces [] := List.forall_mem_nil _

/-! ## Strings -/

/-- A hexadecimal digit, small or capital. -/
def HexDigit (c : Char) (v : Nat) : Prop :=
  v < 16 ∧ (c = Nat.digitChar v ∨ c = (Nat.digitChar v).toUpper)

/-- Four hexadecimal digits, the most significant first. -/
inductive CodeUnit : List Char → Nat → Prop where
  | mk {a b c d : Char} {i j k l : Nat} (ha : HexDigit a i) (hb : HexDigit b j)
    (hc : HexDigit c k) (hd : HexDigit d l) :
    CodeUnit [a, b, c, d] (((i * 16 + j) * 16 + k) * 16 + l)

/-- The letters of short escapes, each with the character that it stands for. -/
def shortEscapes : List (Char × Char) :=
  [('"', '"'), ('\\', '\\'), ('/', '/'), ('b', '\x08'), ('f', '\x0c'), ('n', '\n'), ('r', '\r'),
    ('t', '\t')]

/-- What follows the backslash of an escape. Surrogates stand for a character in pairs only. -/
inductive Escape : List Char → Char → Prop where
  | short {e c : Char} (h : (e, c) ∈ shortEscapes) : Escape [e] c
  | unit {ds : List Char} {n : Nat} (h : CodeUnit ds n) (hn : n < 0xD800 ∨ 0xDFFF < n) :
    Escape ('u' :: ds) (Char.ofNat n)
  | pair {ds es : List Char} {m n : Nat} (hd : CodeUnit ds m) (he : CodeUnit es n)
    (hm : 0xD800 ≤ m ∧ m ≤ 0xDBFF) (hn : 0xDC00 ≤ n ∧ n ≤ 0xDFFF) :
    Escape ('u' :: (ds ++ '\\' :: 'u' :: es))
      (Char.ofNat (0x10000 + (m - 0xD800) * 0x400 + (n - 0xDC00)))

/-- The text between the quotes of a string. Quotes, backslashes and control characters have to be
escaped. -/
inductive CharsText : List Char → List Char → Prop where
  | nil : CharsText [] []
  | plain {c : Char} {t s : List Char} (hq : c ≠ '"') (hb : c ≠ '\\') (hc : 0x20 ≤ c.toNat)
    (h : CharsText t s) : CharsText (c :: t) (c :: s)
  | escape {e t s : List Char} {c : Char} (he : Escape e c) (h : CharsText t s) :
    CharsText ('\\' :: (e ++ t)) (c :: s)

inductive StringText : List Char → String → Prop where
  | mk {t s : List Char} (h : CharsText t s) : StringText ('"' :: (t ++ ['"'])) (String.ofList s)

/-! ## Numbers -/

theorem isDigit_iff {c : Char} : c.isDigit = true ↔ 48 ≤ c.toNat ∧ c.toNat ≤ 57 := by
  simp [Char.isDigit, UInt32.le_iff_toNat_le]

/-- At least one digit. -/
def Digits (ds : List Char) : Prop := ds ≠ [] ∧ ∀ c ∈ ds, c.isDigit = true

/-- The digits before the point: a zero stands alone. -/
def WholeText (ds : List Char) : Prop := Digits ds ∧ (ds.head? = some '0' → ds = ['0'])

inductive FractionText : List Char → Option (List Char) → Prop where
  | absent : FractionText [] none
  | digits {ds : List Char} (h : Digits ds) : FractionText ('.' :: ds) (some ds)

inductive ExponentText : List Char → Option (Bool × List Char) → Prop where
  | absent : ExponentText [] none
  | bare {e : Char} {ds : List Char} (he : e = 'e' ∨ e = 'E') (h : Digits ds) :
    ExponentText (e :: ds) (some (false, ds))
  | plus {e : Char} {ds : List Char} (he : e = 'e' ∨ e = 'E') (h : Digits ds) :
    ExponentText (e :: '+' :: ds) (some (false, ds))
  | minus {e : Char} {ds : List Char} (he : e = 'e' ∨ e = 'E') (h : Digits ds) :
    ExponentText (e :: '-' :: ds) (some (true, ds))

inductive NumberText : List Char → Number → Prop where
  | mk (negative : Bool) {ds f x : List Char} {fraction : Option (List Char)}
    {exponent : Option (Bool × List Char)} (hd : WholeText ds) (hf : FractionText f fraction)
    (hx : ExponentText x exponent) :
    NumberText ((if negative then ['-'] else []) ++ (ds ++ (f ++ x)))
      ⟨negative, ds, fraction, exponent⟩

/-! ## Documents -/

/-- Items with commas between them, and white space around each; or just white space. -/
inductive ItemsText {α : Type} (Item : List Char → α → Prop) : List Char → List α → Prop where
  | none {w : List Char} (hw : Spaces w) : ItemsText Item w []
  | last {w t w' : List Char} {a : α} (hw : Spaces w) (ht : Item t a) (hw' : Spaces w') :
    ItemsText Item (w ++ (t ++ w')) [a]
  | next {w t w' ts : List Char} {a b : α} {as : List α} (hw : Spaces w) (ht : Item t a)
    (hw' : Spaces w') (h : ItemsText Item ts (b :: as)) :
    ItemsText Item (w ++ (t ++ (w' ++ ',' :: ts))) (a :: b :: as)

/-- A name, a colon and a value. -/
inductive FieldText (Value : List Char → Json → Prop) : List Char → String × Json → Prop where
  | mk {n w w' t : List Char} {name : String} {v : Json} (hn : StringText n name) (hw : Spaces w)
    (hw' : Spaces w') (ht : Value t v) :
    FieldText Value (n ++ (w ++ ':' :: (w' ++ t))) (name, v)

/-- The spellings of a document. -/
inductive ValueText : List Char → Json → Prop where
  | null : ValueText ['n', 'u', 'l', 'l'] .null
  | true : ValueText ['t', 'r', 'u', 'e'] (.bool true)
  | false : ValueText ['f', 'a', 'l', 's', 'e'] (.bool false)
  | number {t : List Char} {n : Number} (h : NumberText t n) : ValueText t (.number n)
  | string {t : List Char} {s : String} (h : StringText t s) : ValueText t (.string s)
  | array {t : List Char} {vs : List Json} (h : ItemsText ValueText t vs) :
    ValueText ('[' :: (t ++ [']'])) (.array vs)
  | object {t : List Char} {fs : List (String × Json)} (h : ItemsText (FieldText ValueText) t fs) :
    ValueText ('{' :: (t ++ ['}'])) (.object fs)

/-- A number that is a double when it is read, and not infinite. -/
def Number.Finite (n : Number) : Prop := n.overflows = false

/-- A document with at most `levels` levels of arrays and objects, and with `Sized` numbers only. -/
inductive Fits (Sized : Number → Prop) : (levels : Nat) → Json → Prop where
  | null (levels : Nat) : Fits Sized levels .null
  | bool (levels : Nat) (b : Bool) : Fits Sized levels (.bool b)
  | number (levels : Nat) {n : Number} (h : Sized n) : Fits Sized levels (.number n)
  | string (levels : Nat) (s : String) : Fits Sized levels (.string s)
  | array {levels : Nat} {vs : List Json} (h : ∀ v ∈ vs, Fits Sized levels v) :
    Fits Sized (levels + 1) (.array vs)
  | object {levels : Nat} {fs : List (String × Json)} (h : ∀ f ∈ fs, Fits Sized levels f.2) :
    Fits Sized (levels + 1) (.object fs)

/-! ## Parts of texts -/

section
variable {α : Type} {Item : List Char → α → Prop} {P : α → Prop} {t : List Char} {as : List α}

/-- What holds of each item. -/
theorem itemsText_and_iff : ItemsText (fun t a => Item t a ∧ P a) t as ↔
    ItemsText Item t as ∧ ∀ a ∈ as, P a := by
  constructor
  · intro h
    induction h with
    | none hw => exact ⟨.none hw, fun a ha => by cases ha⟩
    | last hw ht hw' => exact ⟨.last hw ht.1 hw', List.forall_mem_singleton.mpr ht.2⟩
    | next hw ht hw' _ ih =>
      exact ⟨.next hw ht.1 hw' ih.1, List.forall_mem_cons.mpr ⟨ht.2, ih.2⟩⟩
  · rintro ⟨h, hp⟩
    induction h with
    | none hw => exact .none hw
    | last hw ht hw' => exact .last hw ⟨ht, List.forall_mem_singleton.mp hp⟩ hw'
    | next hw ht hw' _ ih =>
      obtain ⟨hp, hps⟩ := List.forall_mem_cons.mp hp
      exact .next hw ⟨ht, hp⟩ hw' (ih hps)

theorem fieldText_and {Value : List Char → Json → Prop} {P : Json → Prop} :
    FieldText (fun t v => Value t v ∧ P v) = fun t f => FieldText Value t f ∧ P f.2 := by
  funext t f
  refine propext ⟨?_, ?_⟩
  · rintro ⟨hn, hw, hw', ht⟩
    exact ⟨.mk hn hw hw' ht.1, ht.2⟩
  · rintro ⟨⟨hn, hw, hw', ht⟩, hp⟩
    exact .mk hn hw hw' ⟨ht, hp⟩

end

/-! ## Fields of a name -/

/-- Just one of the fields has the name, and this is its value. -/
def Once (name : String) (v : Json) (fields : List (String × Json)) : Prop :=
  ∃ before after, fields = before ++ (name, v) :: after ∧ ∀ f ∈ before ++ after, f.1 ≠ name

theorem valuesOf_eq_singleton_iff {name : String} {v : Json} {fields : List (String × Json)} :
    valuesOf name fields = [v] ↔ Once name v fields := by
  rw [valuesOf, List.map_eq_singleton_iff]
  constructor
  · rintro ⟨⟨name', v'⟩, hfilter, hv⟩
    obtain ⟨before, after, rfl, hbefore, hname, hafter⟩ := List.filter_eq_cons_iff.mp hfilter
    obtain rfl : name' = name := beq_iff_eq.mp hname
    obtain rfl : v' = v := hv
    refine ⟨before, after, rfl, List.forall_mem_append.mpr ⟨fun f hf => ?_, fun f hf => ?_⟩⟩
    · simpa using hbefore f hf
    · simpa using List.filter_eq_nil_iff.mp hafter f hf
  · rintro ⟨before, after, rfl, hall⟩
    obtain ⟨hbefore, hafter⟩ := List.forall_mem_append.mp hall
    refine ⟨(name, v), List.filter_eq_cons_iff.mpr ⟨before, after, rfl, ?_, beq_self_eq_true _, ?_⟩,
      rfl⟩
    · simpa using hbefore
    · simpa [List.filter_eq_nil_iff] using hafter

end DevServer.Json
