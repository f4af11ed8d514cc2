import DevServer.Json.Printer
import DevServer.Proofs.Json.Doubles
import DevServer.Proofs.Json.Values

/-!
# Written documents are read back

A document whose numbers are written in one of their spellings is itself written in one of its
spellings (`valueText_write`). So it is read back (`parse?_render`), and two documents are never
written alike. A written document is one line (`printable_write`).
-/

namespace DevServer.Json

/-! ## Strings -/

theorem hexDigit_hexDigit (n : ℕ) : HexDigit (hexDigit n) (n % 16) :=
  ⟨Nat.mod_lt n (by decide), .inl rfl⟩

/-- A control character in four hexadecimal digits. -/
theorem escape_control {c : Char} (h : c.toNat < 0x20) :
    Escape ['u', '0', '0', hexDigit (c.toNat / 16), hexDigit c.toNat] c := by
  have hzero : HexDigit '0' 0 := ⟨by decide, .inl rfl⟩
  have hunit : CodeUnit ['0', '0', hexDigit (c.toNat / 16), hexDigit c.toNat] c.toNat := by
    have := CodeUnit.mk hzero hzero (hexDigit_hexDigit (c.toNat / 16)) (hexDigit_hexDigit c.toNat)
    rwa [show ((0 * 16 + 0) * 16 + c.toNat / 16 % 16) * 16 + c.toNat % 16 = c.toNat by omega] at this
  have := Escape.unit hunit (.inl (by omega))
  rwa [Char.ofNat_toNat] at this

theorem CharsText.writeChar {t s : List Char} (h : CharsText t s) (c : Char) :
    CharsText (writeChar c ++ t) (c :: s) := by
  unfold Json.writeChar
  split
  case h_8 hq hb _ _ _ _ _ =>
    split
    · next hc => exact .escape (escape_control hc) h
    · next hc => exact .plain hq hb (by omega) h
  all_goals exact .escape (.short (by decide)) h

theorem charsText_write (s : List Char) : CharsText (s.flatMap writeChar) s := by
  induction s with
  | nil => exact .nil
  | cons c s ih => exact ih.writeChar c

theorem stringText_write (s : String) : StringText (writeString s) s := by
  have := StringText.mk (charsText_write s.toList)
  rwa [String.ofList_toList] at this

/-! ## Numbers -/

namespace Number

theorem digits_toDigits (n : ℕ) : Digits (Nat.toDigits 10 n) :=
  ⟨Nat.toDigits_ne_nil, fun _ => Nat.isDigit_of_mem_toDigits (by decide) (by decide)⟩

/-- Only zero begins with a zero. -/
theorem eq_zero_of_head?_toDigits {n : ℕ} (h : (Nat.toDigits 10 n).head? = some '0') : n = 0 := by
  induction n using Nat.strong_induction_on with
  | _ n ih =>
    by_cases hn : n < 10
    · have hdigits := Nat.ofDigitChars_ten_toDigits (n := n)
      rw [Nat.toDigits_of_lt_base hn] at h hdigits
      rw [Option.some.inj h] at hdigits
      exact hdigits.symm
    · rw [Nat.toDigits_of_base_le (by decide) (by omega),
        List.head?_append_of_ne_nil _ Nat.toDigits_ne_nil] at h
      have := ih (n / 10) (by omega) h
      omega

theorem wholeText_toDigits (n : ℕ) : WholeText (Nat.toDigits 10 n) := by
  refine ⟨digits_toDigits n, fun h => ?_⟩
  rw [eq_zero_of_head?_toDigits h]
  rfl

theorem numberText_ofNat (n : ℕ) : NumberText (ofNat n).write (ofNat n) := by
  have := NumberText.mk false (wholeText_toDigits n) .absent .absent
  simpa [write, ofNat] using this

theorem magnitude_ofNat (n : ℕ) : (ofNat n).magnitude = n := by
  simp [magnitude, ofNat, power, Nat.ofDigitChars_toDigits]

/-- A natural number below `2 ^ 64`, as it is written. -/
def IsWord (n : Number) : Prop := ∃ k < 2 ^ 64, n = ofNat k

theorem isWord_ofNat {n : ℕ} (h : n < 2 ^ 64) : (ofNat n).IsWord := ⟨n, h, rfl⟩

theorem finite_ofNat {n : ℕ} (h : n < 2 ^ 64) : (ofNat n).Finite := by
  have hbound : (2 * 2 ^ 64 : ℚ) < infinityBound := by
    have : 2 * 2 ^ 64 < infinityBound := by decide +kernel
    exact_mod_cast this
  have hn : (n : ℚ) < 2 ^ 64 := by exact_mod_cast h
  refine finite_of_lt (numberText_ofNat n).wellFormed ?_
  rw [magnitude_ofNat]
  linarith

end Number

/-! ## Documents -/

theorem itemsText_write {vs : List Json} (h : ∀ v ∈ vs, ValueText v.write v) :
    ItemsText ValueText (writeItems vs) vs := by
  induction vs with
  | nil => exact .none spaces_nil
  | cons v vs ih =>
    obtain ⟨hv, hvs⟩ := List.forall_mem_cons.mp h
    cases vs with
    | nil => simpa [writeItems] using ItemsText.last spaces_nil hv spaces_nil
    | cons v' vs => exact .next spaces_nil hv spaces_nil (ih hvs)

theorem fieldText_write {f : String × Json} (h : ValueText f.2.write f.2) :
    FieldText ValueText (writeString f.1 ++ ':' :: f.2.write) f :=
  .mk (stringText_write f.1) spaces_nil spaces_nil h

theorem fieldsText_write {fs : List (String × Json)} (h : ∀ f ∈ fs, ValueText f.2.write f.2) :
    ItemsText (FieldText ValueText) (writeFields fs) fs := by
  induction fs with
  | nil => exact .none spaces_nil
  | cons f fs ih =>
    obtain ⟨hf, hfs⟩ := List.forall_mem_cons.mp h
    cases fs with
    | nil =>
      simpa [writeFields] using ItemsText.last spaces_nil (fieldText_write hf) spaces_nil
    | cons f' fs =>
      simpa [writeFields] using ItemsText.next spaces_nil (fieldText_write hf) spaces_nil (ih hfs)

theorem Fits.mono {P Q : Number → Prop} (hpq : ∀ n, P n → Q n) {levels : ℕ} {j : Json}
    (h : Fits P levels j) : Fits Q levels j := by
  induction h with
  | null => exact .null _
  | bool _ b => exact .bool _ b
  | number _ hn => exact .number _ (hpq _ hn)
  | string _ s => exact .string _ s
  | array _ ih => exact .array ih
  | object _ ih => exact .object ih

/-- **A document is written in one of its spellings** as long as its numbers are. -/
theorem valueText_write {levels : ℕ} {j : Json}
    (h : Fits (fun n => NumberText n.write n) levels j) : ValueText j.write j := by
  induction h with
  | null => exact .null
  | bool _ b => cases b with
    | true => exact .true
    | false => exact .false
  | number _ hn => exact .number hn
  | string _ s => exact .string (stringText_write s)
  | array _ ih => exact .array (itemsText_write ih)
  | object _ ih => exact .object (fieldsText_write ih)

/-- **A written document is read back**, if it is not too deep and its numbers are words. -/
theorem parse?_render {j : Json} (h : Fits Number.IsWord nesting j) :
    parse? j.render = some j := by
  have htext : ValueText j.write j := by
    refine valueText_write (h.mono ?_)
    rintro _ ⟨k, -, rfl⟩
    exact Number.numberText_ofNat k
  have hfits : Fits Number.Finite nesting j := by
    refine h.mono ?_
    rintro _ ⟨k, hk, rfl⟩
    exact Number.finite_ofNat hk
  refine parse?_eq_some_iff.mpr ⟨[], j.write, [], ?_, spaces_nil, spaces_nil, htext, hfits⟩
  rw [render, String.toList_ofList, List.nil_append, List.append_nil]

/-! ## Lines -/

/-- A text without control characters. -/
def Printable (t : List Char) : Prop := ∀ c ∈ t, 0x20 ≤ c.toNat

theorem Printable.append {t u : List Char} (ht : Printable t) (hu : Printable u) :
    Printable (t ++ u) := List.forall_mem_append.mpr ⟨ht, hu⟩

theorem Printable.cons {t : List Char} (ht : Printable t) {c : Char} (hc : 0x20 ≤ c.toNat) :
    Printable (c :: t) := List.forall_mem_cons.mpr ⟨hc, ht⟩

theorem printable_of_all {t : List Char} (h : t.all (fun c => 0x20 ≤ c.toNat) = true) :
    Printable t := fun c hc => of_decide_eq_true (List.all_eq_true.mp h c hc)

theorem printable_digitChar : ∀ n < 16, 0x20 ≤ (Nat.digitChar n).toNat := by decide

theorem printable_writeChar (c : Char) : Printable (writeChar c) := by
  have hhex (n : ℕ) : 0x20 ≤ (hexDigit n).toNat :=
    printable_digitChar (n % 16) (Nat.mod_lt n (by decide))
  unfold writeChar
  split
  case h_8 =>
    split
    · have hunit : Printable ['\\', 'u', '0', '0'] := printable_of_all rfl
      exact hunit.append (.cons (.cons (List.forall_mem_nil _) (hhex _)) (hhex _))
    · next hc => exact .cons (List.forall_mem_nil _) (by omega)
  all_goals exact printable_of_all rfl

theorem printable_writeString (s : String) : Printable (writeString s) := by
  have hbody : Printable (s.toList.flatMap writeChar) := by
    intro c hc
    obtain ⟨d, -, hd⟩ := List.mem_flatMap.mp hc
    exact printable_writeChar d c hd
  have hquote : Printable ['"'] := printable_of_all rfl
  exact (hbody.append hquote).cons (by decide)

theorem Number.printable_ofNat (n : ℕ) : Printable (Number.ofNat n).write := by
  intro c hc
  have hmem : c ∈ Nat.toDigits 10 n := by simpa [write, ofNat] using hc
  have := (isDigit_iff.mp ((digits_toDigits n).2 c hmem)).1
  omega

theorem printable_writeItems {vs : List Json} (h : ∀ v ∈ vs, Printable v.write) :
    Printable (writeItems vs) := by
  induction vs with
  | nil => exact List.forall_mem_nil _
  | cons v vs ih =>
    obtain ⟨hv, hvs⟩ := List.forall_mem_cons.mp h
    cases vs with
    | nil => exact hv
    | cons v' vs => exact hv.append ((ih hvs).cons (by decide))

theorem printable_writeFields {fs : List (String × Json)} (h : ∀ f ∈ fs, Printable f.2.write) :
    Printable (writeFields fs) := by
  induction fs with
  | nil => exact List.forall_mem_nil _
  | cons f fs ih =>
    obtain ⟨hf, hfs⟩ := List.forall_mem_cons.mp h
    have hfield : Printable (writeString f.1 ++ ':' :: f.2.write) :=
      (printable_writeString f.1).append (hf.cons (by decide))
    cases fs with
    | nil => exact hfield
    | cons f' fs => exact hfield.append ((ih hfs).cons (by decide))

/-- **A document is written on one line.** -/
theorem printable_write {levels : ℕ} {j : Json}
    (h : Fits (fun n => Printable n.write) levels j) : Printable j.write := by
  have hclose {close : Char} (hc : 0x20 ≤ close.toNat) : Printable [close] :=
    .cons (List.forall_mem_nil _) hc
  induction h with
  | null => exact printable_of_all rfl
  | bool _ b =>
    cases b with
    | true | false => exact printable_of_all rfl
  | number _ hn => exact hn
  | string _ s => exact printable_writeString s
  | array _ ih => exact ((printable_writeItems ih).append (hclose (by decide))).cons (by decide)
  | object _ ih => exact ((printable_writeFields ih).append (hclose (by decide))).cons (by decide)

theorem printable_render {levels : ℕ} {j : Json} (h : Fits Number.IsWord levels j) :
    Printable j.render.toList := by
  rw [render, String.toList_ofList]
  refine printable_write (h.mono ?_)
  rintro _ ⟨k, -, rfl⟩
  exact Number.printable_ofNat k

end DevServer.Json
