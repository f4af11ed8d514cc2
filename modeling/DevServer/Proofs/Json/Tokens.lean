import DevServer.Json.Parser
import DevServer.Proofs.Json.Grammar

/-!
# Reading strings and numbers

The readers of strings take exactly what the grammar says (`readString_eq_some_iff`). A number has no
end of its own: it is read to its end where what follows it cannot go on with it (`Stops`), as it is
with what follows a value in a document.
-/

namespace DevServer.Json

open Text

/-! ## White space -/

theorem isSpace_iff {c : Char} : isSpace c = true ↔ c ∈ [' ', '\n', '\t', '\r'] := by
  simp [isSpace, or_assoc]

theorem skipSpace_append {w : List Char} (hw : Spaces w) (s : List Char) :
    skipSpace (w ++ s) = skipSpace s :=
  List.dropWhile_append_of_pos fun c hc => isSpace_iff.mpr (hw c hc)

theorem skipSpace_cons {c : Char} (hc : isSpace c = false) (s : List Char) :
    skipSpace (c :: s) = c :: s := by
  simp [skipSpace, hc]

theorem exists_spaces (s : List Char) : ∃ w, Spaces w ∧ s = w ++ skipSpace s := by
  refine ⟨s.takeWhile isSpace, fun c hc => ?_, List.takeWhile_append_dropWhile.symm⟩
  exact isSpace_iff.mp (List.all_eq_true.mp List.all_takeWhile c hc)

/-- Nothing follows a value, or white space, a comma or a bracket that closes. -/
def Stops (s : List Char) : Prop := ∀ c ∈ s.head?, c ∈ [' ', '\n', '\t', '\r', ',', ']', '}']

theorem stops_nil : Stops [] := fun _ hc => by cases hc

theorem stops_cons {c : Char} (hc : c ∈ [',', ']', '}']) (s : List Char) : Stops (c :: s) := by
  intro d hd
  cases hd
  exact List.mem_append_right [' ', '\n', '\t', '\r'] hc

theorem stops_append {w s : List Char} (hw : Spaces w) (hs : Stops s) : Stops (w ++ s) := by
  cases w with
  | nil => exact hs
  | cons c w =>
    intro d hd
    cases hd
    exact List.mem_append_left [',', ']', '}'] (hw c (List.mem_cons_self ..))

/-! ## Strings -/

theorem hexDigit?_digitChar : ∀ v < 16, hexDigit? (Nat.digitChar v) = some v ∧
    hexDigit? (Nat.digitChar v).toUpper = some v := by decide

theorem ofNat_small : ∀ n ≤ 102, 97 ≤ n → Char.ofNat n = Nat.digitChar (n - 97 + 10) := by decide

theorem ofNat_capital : ∀ n ≤ 70, 65 ≤ n →
    Char.ofNat n = (Nat.digitChar (n - 65 + 10)).toUpper := by decide

theorem ofNat_decimal : ∀ n ≤ 57, 48 ≤ n → Char.ofNat n = Nat.digitChar (n - 48) := by decide

theorem hexDigit?_eq_some_iff {c : Char} {v : Nat} : hexDigit? c = some v ↔ HexDigit c v := by
  constructor
  · intro h
    have hc : Char.ofNat c.toNat = c := Char.ofNat_toNat c
    unfold hexDigit? at h
    split at h
    · next hd =>
      obtain ⟨hge, hle⟩ := isDigit_iff.mp hd
      have hv : c.toNat - 48 = v := Option.some.inj h
      exact ⟨by omega, .inl (by rw [← hc, ofNat_decimal _ hle hge, hv])⟩
    · split at h
      · next hd =>
        obtain ⟨hge, hle⟩ : 97 ≤ c.toNat ∧ c.toNat ≤ 102 := hd
        have hv : c.toNat - 97 + 10 = v := Option.some.inj h
        exact ⟨by omega, .inl (by rw [← hc, ofNat_small _ hle hge, hv])⟩
      · split at h
        · next hd =>
          obtain ⟨hge, hle⟩ : 65 ≤ c.toNat ∧ c.toNat ≤ 70 := hd
          have hv : c.toNat - 65 + 10 = v := Option.some.inj h
          exact ⟨by omega, .inr (by rw [← hc, ofNat_capital _ hle hge, hv])⟩
        · cases h
  · rintro ⟨hv, rfl | rfl⟩
    · exact (hexDigit?_digitChar v hv).1
    · exact (hexDigit?_digitChar v hv).2

theorem hexValue?_eq_some_iff {a b c d : Char} {n : Nat} :
    hexValue? [a, b, c, d] = some n ↔ CodeUnit [a, b, c, d] n := by
  constructor
  · intro h
    simp only [hexValue?, List.foldlM_cons, List.foldlM_nil, Option.bind_eq_bind,
      Option.bind_eq_some_iff, Option.map_eq_some_iff, hexDigit?_eq_some_iff] at h
    obtain ⟨_, ⟨i, hi, rfl⟩, _, ⟨j, hj, rfl⟩, _, ⟨k, hk, rfl⟩, _, ⟨l, hl, rfl⟩, h⟩ := h
    cases h
    simpa using CodeUnit.mk hi hj hk hl
  · intro h
    cases h with
    | mk hi hj hk hl =>
      simp [hexValue?, hexDigit?_eq_some_iff.mpr hi, hexDigit?_eq_some_iff.mpr hj,
        hexDigit?_eq_some_iff.mpr hk, hexDigit?_eq_some_iff.mpr hl]

theorem CodeUnit.exists_eq {ds : List Char} {n : Nat} (h : CodeUnit ds n) :
    ∃ a b c d, ds = [a, b, c, d] ∧ hexValue? [a, b, c, d] = some n := by
  obtain ⟨ha, hb, hc, hd⟩ := h
  exact ⟨_, _, _, _, rfl, hexValue?_eq_some_iff.mpr (.mk ha hb hc hd)⟩

theorem isHighSurrogate_iff {n : Nat} : isHighSurrogate n = true ↔ 0xD800 ≤ n ∧ n ≤ 0xDBFF := by
  simp [isHighSurrogate]

theorem isLowSurrogate_iff {n : Nat} : isLowSurrogate n = true ↔ 0xDC00 ≤ n ∧ n ≤ 0xDFFF := by
  simp [isLowSurrogate]

theorem simpleEscape?_eq_some_iff {e c : Char} :
    simpleEscape? e = some c ↔ (e, c) ∈ shortEscapes := by
  constructor
  · intro h
    unfold simpleEscape? at h
    split at h <;> cases h <;> decide
  · intro h
    simp only [shortEscapes, List.mem_cons, Prod.mk.injEq, List.not_mem_nil, or_false] at h
    rcases h with h | h | h | h | h | h | h | h <;> obtain ⟨rfl, rfl⟩ := h <;> rfl

section
variable {s rest : List Char} {c : Char}

theorem of_readEscape (h : readEscape s = some (c, rest)) : ∃ e, s = e ++ rest ∧ Escape e c := by
  unfold readEscape at h
  split at h
  · next a b c' d rest' =>
    simp only [Option.bind_eq_bind, Option.bind_eq_some_iff] at h
    obtain ⟨m, hm, h⟩ := h
    have hm := hexValue?_eq_some_iff.mp hm
    split at h
    · cases h
    · next hlow =>
      rw [isLowSurrogate_iff] at hlow
      split at h
      · next hhigh =>
        rw [isHighSurrogate_iff] at hhigh
        split at h
        · next a' b' c'' d' rest'' =>
          simp only [Option.bind_eq_some_iff] at h
          obtain ⟨n, hn, h⟩ := h
          have hn := hexValue?_eq_some_iff.mp hn
          split at h
          · next hlow' =>
            rw [isLowSurrogate_iff] at hlow'
            obtain ⟨rfl, rfl⟩ := Prod.mk.inj (Option.some.inj h)
            exact ⟨'u' :: ([a, b, c', d] ++ '\\' :: 'u' :: [a', b', c'', d']), rfl,
              .pair hm hn hhigh hlow'⟩
          · cases h
        · cases h
      · next hhigh =>
        rw [isHighSurrogate_iff] at hhigh
        cases h
        exact ⟨'u' :: [a, b, c', d], rfl, .unit hm (by omega)⟩
  · next e rest' _ =>
    obtain ⟨c', hc, h⟩ := Option.map_eq_some_iff.mp h
    cases h
    exact ⟨[e], rfl, .short (simpleEscape?_eq_some_iff.mp hc)⟩
  · cases h

theorem Escape.read {e : List Char} (h : Escape e c) (rest : List Char) :
    readEscape (e ++ rest) = some (c, rest) := by
  cases h with
  | @short e _ h =>
    have hu : e ≠ 'u' := by
      rintro rfl
      revert h
      simp [shortEscapes]
    rw [List.singleton_append, readEscape.eq_2 _ _ fun _ _ _ _ _ he _ => hu he,
      simpleEscape?_eq_some_iff.mpr h]
    rfl
  | @unit ds n h hn =>
    obtain ⟨a, b, c, d, rfl, hv⟩ := h.exists_eq
    have hlow : ¬isLowSurrogate n = true := by rw [isLowSurrogate_iff]; omega
    have hhigh : ¬isHighSurrogate n = true := by rw [isHighSurrogate_iff]; omega
    simp [readEscape, hv, hlow, hhigh]
  | @pair ds es m n hd he hm hn =>
    obtain ⟨a, b, c, d, rfl, hv⟩ := hd.exists_eq
    obtain ⟨a', b', c', d', rfl, hv'⟩ := he.exists_eq
    have hlow : ¬isLowSurrogate m = true := by rw [isLowSurrogate_iff]; omega
    simp [readEscape, hv, hlow, isHighSurrogate_iff.mpr hm, hv', isLowSurrogate_iff.mpr hn]

end

section
variable {s t cs rest : List Char}

theorem readStringBody_escape (s : List Char) : readStringBody ('\\' :: s) =
    (readEscape s).bind fun (c, rest) =>
      (readStringBody rest).map fun (cs, after) => (c :: cs, after) := by
  rw [readStringBody]
  split
  · next h => rw [h]; rfl
  · next h => rw [h]; rfl

theorem readStringBody_plain {c : Char} (hq : c ≠ '"') (hb : c ≠ '\\') (hc : 0x20 ≤ c.toNat)
    (s : List Char) :
    readStringBody (c :: s) = (readStringBody s).map fun (cs, after) => (c :: cs, after) := by
  rw [readStringBody.eq_3 _ _ hq hb, if_neg (by omega)]

theorem of_readStringBody (h : readStringBody s = some (cs, rest)) :
    ∃ t, s = t ++ '"' :: rest ∧ CharsText t cs := by
  fun_induction readStringBody s generalizing cs with
  | case1 rest' =>
    cases h
    exact ⟨[], rfl, .nil⟩
  | case2 s c rest' he ih =>
    obtain ⟨⟨cs', after⟩, hr, h⟩ := Option.map_eq_some_iff.mp h
    cases h
    obtain ⟨t, rfl, ht⟩ := ih hr
    obtain ⟨e, rfl, hesc⟩ := of_readEscape he
    exact ⟨'\\' :: (e ++ t), by simp, .escape hesc ht⟩
  | case3 => cases h
  | case4 => cases h
  | case5 c s hq hb hc ih =>
    obtain ⟨⟨cs', after⟩, hr, h⟩ := Option.map_eq_some_iff.mp h
    cases h
    obtain ⟨t, rfl, ht⟩ := ih hr
    exact ⟨c :: t, rfl, .plain hq hb (by omega) ht⟩
  | case6 => cases h

theorem CharsText.read (h : CharsText t cs) (rest : List Char) :
    readStringBody (t ++ '"' :: rest) = some (cs, rest) := by
  induction h with
  | nil => rw [List.nil_append, readStringBody]
  | plain hq hb hc _ ih => rw [List.cons_append, readStringBody_plain hq hb hc, ih]; rfl
  | escape he _ ih =>
    rw [List.cons_append, List.append_assoc, readStringBody_escape, he.read, Option.bind_some]
    simp only [ih, Option.map_some]

/-- **A string is read up to the quote that ends it.** -/
theorem readString_eq_some_iff {v : String} :
    readString s = some (v, rest) ↔ ∃ t, s = t ++ rest ∧ StringText t v := by
  constructor
  · intro h
    unfold readString at h
    split at h
    · obtain ⟨⟨cs, after⟩, hr, h⟩ := Option.map_eq_some_iff.mp h
      cases h
      obtain ⟨t, rfl, ht⟩ := of_readStringBody hr
      exact ⟨'"' :: (t ++ ['"']), by simp, .mk ht⟩
    · cases h
  · rintro ⟨t, rfl, ht⟩
    cases ht with
    | mk ht => simp [readString, ht.read]

end

/-! ## Numbers -/

section
variable {s ds rest : List Char}

/-- No digit follows. -/
def NoDigit (s : List Char) : Prop := ∀ c ∈ s.head?, c.isDigit = false

theorem Stops.noDigit (h : Stops s) : NoDigit s := by
  have hall : ∀ c ∈ [' ', '\n', '\t', '\r', ',', ']', '}'], c.isDigit = false := by simp
  exact fun c hc => hall c (h c hc)

theorem readDigits_eq_some_iff :
    readDigits s = some (ds, rest) ↔ s = ds ++ rest ∧ Digits ds ∧ NoDigit rest := by
  constructor
  · intro h
    unfold readDigits at h
    split at h
    · cases h
    · next hne =>
      cases h
      refine ⟨List.takeWhile_append_dropWhile.symm, ⟨hne, ?_⟩, fun c hc => ?_⟩
      · exact List.all_eq_true.mp List.all_takeWhile
      · have := List.head?_dropWhile_not Char.isDigit s
        rw [Option.mem_def.mp hc] at this
        simpa using this
  · rintro ⟨rfl, ⟨hne, hd⟩, hr⟩
    have htake : (ds ++ rest).takeWhile Char.isDigit = ds := by
      rw [List.takeWhile_append_of_pos hd]
      cases rest with
      | nil => simp
      | cons c rest => simp [hr c rfl]
    have hdrop : (ds ++ rest).dropWhile Char.isDigit = rest := by
      rw [List.dropWhile_append_of_pos hd]
      cases rest with
      | nil => simp
      | cons c rest => simp [hr c rfl]
    simp only [readDigits, htake, hdrop]

/-- Digits of which something is made. -/
theorem of_map_readDigits {β : Type} {f : List Char → β} {b : β}
    {g : List Char × List Char → β × List Char} (hg : ∀ ds r, g (ds, r) = (f ds, r))
    (h : (readDigits s).map g = some (b, rest)) : ∃ ds, s = ds ++ rest ∧ Digits ds ∧ b = f ds := by
  obtain ⟨⟨ds, r⟩, hr, h⟩ := Option.map_eq_some_iff.mp h
  obtain ⟨rfl, rfl⟩ := Prod.mk.inj ((hg ds r).symm.trans h)
  obtain ⟨hs, hd, -⟩ := readDigits_eq_some_iff.mp hr
  exact ⟨ds, hs, hd, rfl⟩

theorem readWhole_eq_some_iff :
    readWhole s = some (ds, rest) ↔ s = ds ++ rest ∧ WholeText ds ∧ NoDigit rest := by
  unfold readWhole
  split
  · next tail =>
    have hzero : Digits ['0'] := ⟨List.cons_ne_nil _ _, List.all_eq_true.mp rfl⟩
    constructor
    · intro h
      split at h
      · cases h
      · next hr =>
        cases h
        refine ⟨rfl, ⟨hzero, fun _ => rfl⟩, fun c hc => ?_⟩
        rw [Option.mem_def.mp hc] at hr
        simpa using hr
    · rintro ⟨hs, ⟨⟨hne, -⟩, hz⟩, hr⟩
      obtain rfl : ds = ['0'] := by
        cases ds with
        | nil => exact absurd rfl hne
        | cons d ds =>
          obtain ⟨rfl, -⟩ := List.cons.inj hs
          exact hz rfl
      obtain rfl : tail = rest := (List.cons.inj hs).2
      have hno : ¬tail.head?.any Char.isDigit = true := by
        rw [Option.any_eq_true]
        rintro ⟨c, hc, hd⟩
        rw [hr c hc] at hd
        cases hd
      rw [if_neg hno]
  · next hs =>
    rw [readDigits_eq_some_iff]
    refine and_congr_right fun heq => and_congr_left fun _ => ⟨fun hd => ⟨hd, ?_⟩, And.left⟩
    intro hhead
    obtain ⟨tail, rfl⟩ := List.head?_eq_some_iff.mp hhead
    exact absurd heq (hs (tail ++ rest))

theorem of_readFraction {fraction : Option (List Char)}
    (h : readFraction s = some (fraction, rest)) :
    ∃ f, s = f ++ rest ∧ FractionText f fraction := by
  unfold readFraction at h
  split at h
  · obtain ⟨ds, rfl, hd, rfl⟩ := of_map_readDigits (fun _ _ => rfl) h
    exact ⟨'.' :: ds, rfl, .digits hd⟩
  · cases h
    exact ⟨[], rfl, .absent⟩

theorem FractionText.read {f : List Char} {fraction : Option (List Char)}
    (h : FractionText f fraction) (hr : NoDigit rest) (hp : rest.head? ≠ some '.') :
    readFraction (f ++ rest) = some (fraction, rest) := by
  cases h with
  | absent =>
    rw [List.nil_append, readFraction.eq_2]
    rintro r rfl
    exact hp rfl
  | digits hd => simp [readFraction, readDigits_eq_some_iff.mpr ⟨rfl, hd, hr⟩]

theorem of_readExponent {exponent : Option (Bool × List Char)}
    (h : readExponent s = some (exponent, rest)) :
    ∃ x, s = x ++ rest ∧ ExponentText x exponent := by
  unfold readExponent at h
  split at h
  · next e r =>
    split at h
    · next he =>
      split at h
      · obtain ⟨ds, rfl, hd, rfl⟩ := of_map_readDigits (fun _ _ => rfl) h
        exact ⟨e :: '+' :: ds, rfl, .plus he hd⟩
      · obtain ⟨ds, rfl, hd, rfl⟩ := of_map_readDigits (fun _ _ => rfl) h
        exact ⟨e :: '-' :: ds, rfl, .minus he hd⟩
      · obtain ⟨ds, rfl, hd, rfl⟩ := of_map_readDigits (fun _ _ => rfl) h
        exact ⟨e :: ds, rfl, .bare he hd⟩
    · cases h
      exact ⟨[], rfl, .absent⟩
  · cases h
    exact ⟨[], rfl, .absent⟩

theorem ExponentText.read {x : List Char} {exponent : Option (Bool × List Char)}
    (h : ExponentText x exponent) (hr : NoDigit rest) (he : ∀ e ∈ rest.head?, e ≠ 'e' ∧ e ≠ 'E') :
    readExponent (x ++ rest) = some (exponent, rest) := by
  cases h with
  | absent =>
    cases rest with
    | nil => rfl
    | cons c rest => simp [readExponent, he c rfl]
  | @bare e ds he' hd =>
    obtain ⟨hne, hall⟩ := hd
    cases ds with
    | nil => exact absurd rfl hne
    | cons d ds =>
      have hdigit : d.isDigit = true := hall d (List.mem_cons_self ..)
      have hplus : d ≠ '+' := by rintro rfl; revert hdigit; decide
      have hminus : d ≠ '-' := by rintro rfl; revert hdigit; decide
      have hread : readDigits (d :: (ds ++ rest)) = some (d :: ds, rest) :=
        readDigits_eq_some_iff.mpr ⟨rfl, ⟨hne, hall⟩, hr⟩
      simp [readExponent, he', hplus, hminus, hread]
  | plus he' hd => simp [readExponent, he', readDigits_eq_some_iff.mpr ⟨rfl, hd, hr⟩]
  | minus he' hd => simp [readExponent, he', readDigits_eq_some_iff.mpr ⟨rfl, hd, hr⟩]

end

/-! ### Whole numbers -/

section
variable {s t rest : List Char} {n : Number}

/-- What is read after the sign. -/
def readUnsigned (negative : Bool) : Reader Number := fun s => do
  let (whole, s) ← readWhole s
  let (fraction, s) ← readFraction s
  let (exponent, s) ← readExponent s
  let n : Number := ⟨negative, whole, fraction, exponent⟩
  if n.overflows then none else return (n, s)

theorem readNumber_minus (s : List Char) : readNumber ('-' :: s) = readUnsigned true s := rfl

theorem readNumber_of_head (h : s.head? ≠ some '-') : readNumber s = readUnsigned false s := by
  unfold readNumber readUnsigned
  split
  next heq =>
    split at heq
    · exact absurd rfl h
    · cases heq
      rfl

theorem of_readUnsigned {negative : Bool} (h : readUnsigned negative s = some (n, rest)) :
    ∃ t, s = t ++ rest ∧ NumberText ((if negative then ['-'] else []) ++ t) n ∧
      n.Finite := by
  simp only [readUnsigned, Option.bind_eq_bind, Option.bind_eq_some_iff, Prod.exists] at h
  obtain ⟨ds, r₁, hw, fraction, r₂, hfr, exponent, r₃, hxr, h⟩ := h
  obtain ⟨rfl, hds, -⟩ := readWhole_eq_some_iff.mp hw
  obtain ⟨f, rfl, hf⟩ := of_readFraction hfr
  obtain ⟨x, rfl, hx⟩ := of_readExponent hxr
  split at h
  · cases h
  · next ho =>
    cases h
    exact ⟨ds ++ (f ++ x), by simp, .mk negative hds hf hx, by simpa [Number.Finite] using ho⟩

/-- What is read of a number is a spelling of it, and it does not overflow. -/
theorem of_readNumber (h : readNumber s = some (n, rest)) :
    ∃ t, s = t ++ rest ∧ NumberText t n ∧ n.Finite := by
  by_cases hs : s.head? = some '-'
  · obtain ⟨s', rfl⟩ := List.head?_eq_some_iff.mp hs
    rw [readNumber_minus] at h
    obtain ⟨t, rfl, ht⟩ := of_readUnsigned h
    exact ⟨'-' :: t, rfl, ht⟩
  · rw [readNumber_of_head hs] at h
    exact of_readUnsigned h

theorem FractionText.noDigit {f : List Char} {fraction : Option (List Char)}
    (h : FractionText f fraction) (hr : NoDigit rest) : NoDigit (f ++ rest) := by
  cases h with
  | absent => exact hr
  | digits =>
    intro c hc
    cases hc
    rfl

theorem ExponentText.noDigit {x : List Char} {exponent : Option (Bool × List Char)}
    (h : ExponentText x exponent) (hr : NoDigit rest) : NoDigit (x ++ rest) := by
  cases h with
  | absent => exact hr
  | bare he | plus he | minus he =>
    intro c hc
    cases hc
    rcases he with rfl | rfl <;> rfl

theorem ExponentText.head?_ne {x : List Char} {exponent : Option (Bool × List Char)}
    (h : ExponentText x exponent) (hr : rest.head? ≠ some '.') : (x ++ rest).head? ≠ some '.' := by
  cases h with
  | absent => exact hr
  | bare he | plus he | minus he => rcases he with rfl | rfl <;> simp

theorem Stops.not_point (h : Stops rest) : rest.head? ≠ some '.' :=
  fun hp => absurd (h '.' hp) (by decide)

theorem Stops.not_exponent (h : Stops rest) : ∀ e ∈ rest.head?, e ≠ 'e' ∧ e ≠ 'E' := by
  have hall : ∀ c ∈ [' ', '\n', '\t', '\r', ',', ']', '}'], c ≠ 'e' ∧ c ≠ 'E' := by simp
  exact fun c hc => hall c (h c hc)

/-- A number that does not overflow is read, whatever its spelling, up to where it stops. -/
theorem NumberText.read (h : NumberText t n) (ho : n.Finite) (hr : Stops rest) :
    readNumber (t ++ rest) = some (n, rest) := by
  cases h with
  | @mk negative ds f x fraction exponent hd hf hx =>
    have ho' : (Number.mk negative ds fraction exponent).overflows = false := ho
    have hx' := hx.read hr.noDigit hr.not_exponent
    have hf' : readFraction (f ++ (x ++ rest)) = some (fraction, x ++ rest) :=
      hf.read (hx.noDigit hr.noDigit) (hx.head?_ne hr.not_point)
    have hd' : readWhole (ds ++ (f ++ (x ++ rest))) = some (ds, f ++ (x ++ rest)) :=
      readWhole_eq_some_iff.mpr ⟨rfl, hd, hf.noDigit (hx.noDigit hr.noDigit)⟩
    have hread : readUnsigned negative (ds ++ (f ++ (x ++ rest))) =
        some (⟨negative, ds, fraction, exponent⟩, rest) := by
      simp [readUnsigned, hd', hf', hx', ho']
    cases negative with
    | true => simpa [readNumber_minus] using hread
    | false =>
      have hhead : (ds ++ (f ++ (x ++ rest))).head? ≠ some '-' := by
        obtain ⟨⟨hne, hall⟩, -⟩ := hd
        cases ds with
        | nil => exact absurd rfl hne
        | cons d ds =>
          intro h
          cases h
          exact absurd (hall '-' (List.mem_cons_self ..)) (by decide)
      simpa [readNumber_of_head hhead] using hread

end

end DevServer.Json
