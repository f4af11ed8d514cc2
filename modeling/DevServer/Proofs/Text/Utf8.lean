import DevServer.Text.Utf8
import Mathlib.Data.Nat.Notation
import Mathlib.Tactic.Simproc.ExistsAndEq
import Mathlib.Tactic.SplitIfs

/-!
# Decoding UTF-8

Decoding is the inverse of encoding: bytes are decoded just when they are the encoding of a text, and
then to that text (`decode?_eq_some_iff`).
-/

namespace DevServer

theorem mapM_eq_some_iff {α β : Type} {f : α → Option β} {as : List α} {bs : List β} :
    as.mapM f = some bs ↔ as.map f = bs.map some := by
  induction as generalizing bs with
  | nil => cases bs <;> simp
  | cons a as ih => cases bs <;> simp [Option.bind_eq_some_iff, ih, and_comm]

namespace Text

/-! ## Encoding, character by character -/

/-- Bytes are listed from a place on, behind those that have been taken. -/
theorem toList_loop (bs : ByteArray) (i : ℕ) (taken : List UInt8) :
    ByteArray.toList.loop bs i taken = taken.reverse ++ bs.data.toList.drop i := by
  fun_induction ByteArray.toList.loop bs i taken with
  | case1 i taken h ih =>
    have hlt : i < bs.data.toList.length := by simpa using h
    have hget : bs.get! i = bs.data.toList[i] := getElem!_pos bs.data i (by simpa using h)
    rw [ih, List.drop_eq_getElem_cons hlt, ← hget]
    simp
  | case2 i taken h =>
    rw [List.drop_eq_nil_of_le (by simpa using h), List.append_nil]

theorem encode_ofList (cs : List Char) :
    encode (String.ofList cs) = cs.flatMap String.utf8EncodeChar := by
  rw [encode, String.toUTF8, String.toByteArray_ofList, List.utf8Encode, ByteArray.toList, toList_loop]
  simp

theorem eq_ofNat_iff {b : UInt8} {n : ℕ} (h : n < 256) : b = UInt8.ofNat n ↔ b.toNat = n := by
  rw [← UInt8.toNat_inj, UInt8.toNat_ofNat', Nat.mod_eq_of_lt h]

theorem toNat_ofNat_char {v : ℕ} (h : v < 0xD800 ∨ 0xDFFF < v ∧ v < 0x110000) :
    (Char.ofNat v).toNat = v := by
  rw [Char.ofNat, dif_pos h]
  rfl

/-! ## Leading bytes -/

/-- What a leading byte asks for: it has some bits of the character, and its first continuation is in
the range that keeps the sequence shortest, without surrogates and in Unicode. -/
inductive Leads (b : ℕ) : Lead → Prop where
  | two {bits : ℕ} (hb : b = 0xC0 + bits) (h : 2 ≤ bits ∧ bits < 32) : Leads b ⟨1, 0x80, 0xBF, bits⟩
  | three {bits low high : ℕ} (hb : b = 0xE0 + bits) (h : bits < 16)
    (hlow : low = if bits = 0 then 0xA0 else 0x80) (hhigh : high = if bits = 13 then 0x9F else 0xBF) :
    Leads b ⟨2, low, high, bits⟩
  | four {bits low high : ℕ} (hb : b = 0xF0 + bits) (h : bits < 5)
    (hlow : low = if bits = 0 then 0x90 else 0x80) (hhigh : high = if bits = 4 then 0x8F else 0xBF) :
    Leads b ⟨3, low, high, bits⟩

theorem Lead.of?_eq_some_iff {b : ℕ} {l : Lead} : Lead.of? b = some l ↔ Leads b l := by
  constructor
  · intro h
    unfold Lead.of? at h
    split_ifs at h with h1 h2 h3 h4 h5 h6 h7 <;> cases h
    · exact .two (by omega) (by omega)
    · exact .three h2 (by omega) rfl rfl
    · exact .three h3 (by omega) rfl rfl
    · exact .three (by omega) (by omega) (by grind) (by grind)
    · exact .four h5 (by omega) rfl rfl
    · exact .four (by omega) (by omega) (by grind) (by grind)
    · exact .four h7 (by omega) rfl rfl
  · intro h
    unfold Lead.of?
    cases h with
    | two | three | four => grind

/-! ## One chunk -/

section
variable {b : UInt8} {bs rest : Bytes} {c : Char} {n size more low high acc : ℕ}

theorem follow_zero_eq_char_iff :
    follow 0 low high acc size bs = (.char c n, rest) ↔ c = Char.ofNat acc ∧ n = size ∧ bs = rest := by
  rw [follow, Prod.mk.injEq, Chunk.char.injEq, and_assoc, eq_comm, @eq_comm _ size]

theorem follow_succ_eq_char_iff : follow (more + 1) low high acc size bs = (.char c n, rest) ↔
    ∃ x t, bs = x :: t ∧ (low ≤ x.toNat ∧ x.toNat ≤ high) ∧
      follow more 0x80 0xBF (acc * 64 + x.toNat % 64) (size + 1) t = (.char c n, rest) := by
  cases bs with
  | nil => simp [follow]
  | cons x t =>
    rw [follow]
    split
    · next hx => simp [hx]
    · next hx =>
      constructor
      · intro h
        cases h
      · rintro ⟨_, _, heq, hx', -⟩
        cases heq
        exact absurd hx' hx

theorem chunk_of_leads {bits : ℕ} (h : Leads b.toNat ⟨more, low, high, bits⟩) :
    chunk b bs = follow more low high bits 1 bs := by
  have hb : ¬b.toNat < 0x80 := by cases h <;> omega
  rw [chunk, if_neg hb, Lead.of?_eq_some_iff.mpr h]

/-- A code point, as it is written in bytes. -/
theorem utf8EncodeChar_ofNat {v : ℕ} (h : v < 0xD800 ∨ 0xDFFF < v ∧ v < 0x110000) :
    String.utf8EncodeChar (Char.ofNat v) =
      if v ≤ 0x7F then [.ofNat v]
      else if v ≤ 0x7FF then [.ofNat (v / 64 % 32 + 192), .ofNat (v % 64 + 128)]
      else if v ≤ 0xFFFF then
        [.ofNat (v / 4096 % 16 + 224), .ofNat (v / 64 % 64 + 128), .ofNat (v % 64 + 128)]
      else
        [.ofNat (v / 262144 % 8 + 240), .ofNat (v / 4096 % 64 + 128), .ofNat (v / 64 % 64 + 128),
          .ofNat (v % 64 + 128)] := by
  rw [String.utf8EncodeChar, show (Char.ofNat v).val.toNat = v from toNat_ofNat_char h]

/-- What is read as a character is its encoding. -/
theorem encodeChar_of_chunk (h : chunk b bs = (.char c n, rest)) :
    b :: bs = String.utf8EncodeChar c ++ rest := by
  by_cases hb : b.toNat < 0x80
  · rw [chunk, if_pos hb] at h
    cases h
    rw [utf8EncodeChar_ofNat (.inl (by omega)), if_pos (by omega)]
    simp
  · unfold chunk at h
    rw [if_neg hb] at h
    split at h
    · next l hl =>
      cases Lead.of?_eq_some_iff.mp hl with
      | two hb hbits =>
        simp only [follow_succ_eq_char_iff, follow_zero_eq_char_iff] at h
        obtain ⟨x, _, rfl, hx, rfl, -, rfl⟩ := h
        rw [utf8EncodeChar_ofNat (.inl (by omega)), if_neg (by omega), if_pos (by omega)]
        simp only [List.cons_append, List.nil_append, List.cons.injEq, and_true]
        exact ⟨(eq_ofNat_iff (by omega)).mpr (by omega), (eq_ofNat_iff (by omega)).mpr (by omega)⟩
      | @three bits low high hb hbits hlow hhigh =>
        simp only [follow_succ_eq_char_iff, follow_zero_eq_char_iff] at h
        obtain ⟨x, _, rfl, hx, y, _, rfl, hy, rfl, -, rfl⟩ := h
        have hlow : bits = 0 ∧ low = 0xA0 ∨ bits ≠ 0 ∧ low = 0x80 := by grind
        have hhigh : bits = 13 ∧ high = 0x9F ∨ bits ≠ 13 ∧ high = 0xBF := by grind
        rw [utf8EncodeChar_ofNat (by omega), if_neg (by omega), if_neg (by omega), if_pos (by omega)]
        simp only [List.cons_append, List.nil_append, List.cons.injEq, and_true]
        exact ⟨(eq_ofNat_iff (by omega)).mpr (by omega), (eq_ofNat_iff (by omega)).mpr (by omega),
          (eq_ofNat_iff (by omega)).mpr (by omega)⟩
      | @four bits low high hb hbits hlow hhigh =>
        simp only [follow_succ_eq_char_iff, follow_zero_eq_char_iff] at h
        obtain ⟨x, _, rfl, hx, y, _, rfl, hy, z, _, rfl, hz, rfl, -, rfl⟩ := h
        have hlow : bits = 0 ∧ low = 0x90 ∨ bits ≠ 0 ∧ low = 0x80 := by grind
        have hhigh : bits = 4 ∧ high = 0x8F ∨ bits ≠ 4 ∧ high = 0xBF := by grind
        rw [utf8EncodeChar_ofNat (by omega), if_neg (by omega), if_neg (by omega), if_neg (by omega)]
        simp only [List.cons_append, List.nil_append, List.cons.injEq, and_true]
        exact ⟨(eq_ofNat_iff (by omega)).mpr (by omega), (eq_ofNat_iff (by omega)).mpr (by omega),
          (eq_ofNat_iff (by omega)).mpr (by omega), (eq_ofNat_iff (by omega)).mpr (by omega)⟩
    · cases h

/-- An encoding is read as its character, whatever follows. -/
theorem chunk_of_encodeChar (h : String.utf8EncodeChar c ++ rest = b :: bs) :
    ∃ n, chunk b bs = (.char c n, rest) := by
  have hv : c.toNat < 0xD800 ∨ 0xDFFF < c.toNat ∧ c.toNat < 0x110000 := c.valid
  have hc : Char.ofNat c.toNat = c := Char.ofNat_toNat c
  rw [← hc] at h ⊢
  generalize c.toNat = v at hv h
  rw [utf8EncodeChar_ofNat hv] at h
  split_ifs at h with h1 h2 h3
  · obtain ⟨rfl, rfl⟩ := List.cons.inj h
    have hb : (UInt8.ofNat v).toNat = v := (eq_ofNat_iff (by omega)).mp rfl
    exact ⟨1, by rw [chunk, hb, if_pos (by omega)]; rfl⟩
  · simp only [List.cons_append, List.nil_append, List.cons.injEq] at h
    obtain ⟨hb, rfl⟩ := h
    rw [eq_comm, eq_ofNat_iff (by omega)] at hb
    have hx : (UInt8.ofNat (v % 64 + 128)).toNat = v % 64 + 128 := (eq_ofNat_iff (by omega)).mp rfl
    rw [chunk_of_leads (@Leads.two _ (v / 64) (by omega) (by omega))]
    exact ⟨2, follow_succ_eq_char_iff.mpr ⟨_, _, rfl, by omega,
      follow_zero_eq_char_iff.mpr ⟨congrArg Char.ofNat (by omega), rfl, rfl⟩⟩⟩
  · simp only [List.cons_append, List.nil_append, List.cons.injEq] at h
    obtain ⟨hb, rfl⟩ := h
    rw [eq_comm, eq_ofNat_iff (by omega)] at hb
    have hx : (UInt8.ofNat (v / 64 % 64 + 128)).toNat = v / 64 % 64 + 128 :=
      (eq_ofNat_iff (by omega)).mp rfl
    have hy : (UInt8.ofNat (v % 64 + 128)).toNat = v % 64 + 128 := (eq_ofNat_iff (by omega)).mp rfl
    rw [chunk_of_leads (@Leads.three _ (v / 4096) _ _ (by omega) (by omega) rfl rfl)]
    exact ⟨3, follow_succ_eq_char_iff.mpr ⟨_, _, rfl, by split_ifs <;> omega,
      follow_succ_eq_char_iff.mpr ⟨_, _, rfl, by omega,
        follow_zero_eq_char_iff.mpr ⟨congrArg Char.ofNat (by omega), rfl, rfl⟩⟩⟩⟩
  · simp only [List.cons_append, List.nil_append, List.cons.injEq] at h
    obtain ⟨hb, rfl⟩ := h
    rw [eq_comm, eq_ofNat_iff (by omega)] at hb
    have hx : (UInt8.ofNat (v / 4096 % 64 + 128)).toNat = v / 4096 % 64 + 128 :=
      (eq_ofNat_iff (by omega)).mp rfl
    have hy : (UInt8.ofNat (v / 64 % 64 + 128)).toNat = v / 64 % 64 + 128 :=
      (eq_ofNat_iff (by omega)).mp rfl
    have hz : (UInt8.ofNat (v % 64 + 128)).toNat = v % 64 + 128 := (eq_ofNat_iff (by omega)).mp rfl
    rw [chunk_of_leads (@Leads.four _ (v / 262144) _ _ (by omega) (by omega) rfl rfl)]
    exact ⟨4, follow_succ_eq_char_iff.mpr ⟨_, _, rfl, by split_ifs <;> omega,
      follow_succ_eq_char_iff.mpr ⟨_, _, rfl, by omega,
        follow_succ_eq_char_iff.mpr ⟨_, _, rfl, by omega,
          follow_zero_eq_char_iff.mpr ⟨congrArg Char.ofNat (by omega), rfl, rfl⟩⟩⟩⟩⟩

end

/-! ## Whole texts -/

/-- The chunks of an encoding are its characters. -/
theorem char?_chunks_encode (cs : List Char) :
    (chunks (cs.flatMap String.utf8EncodeChar)).map Chunk.char? = cs.map some := by
  induction cs with
  | nil => rw [List.flatMap_nil, chunks]; rfl
  | cons c cs ih =>
    rw [List.flatMap_cons]
    obtain ⟨b, bs, hb⟩ := List.exists_cons_of_ne_nil
      (List.append_ne_nil_of_left_ne_nil (@String.utf8EncodeChar_ne_nil c)
        (cs.flatMap String.utf8EncodeChar))
    obtain ⟨n, hn⟩ := chunk_of_encodeChar hb
    rw [hb, chunks, hn, List.map_cons, List.map_cons, ih, Chunk.char?]

/-- Bytes whose chunks are all characters are the encoding of these. -/
theorem flatMap_encodeChar_of_chunks {bs : Bytes} {cs : List Char}
    (h : (chunks bs).map Chunk.char? = cs.map some) : cs.flatMap String.utf8EncodeChar = bs := by
  fun_induction chunks bs generalizing cs with
  | case1 =>
    obtain rfl := List.map_eq_nil_iff.mp h.symm
    rfl
  | case2 b bs ih =>
    cases cs with
    | nil => cases h
    | cons c cs =>
      obtain ⟨hc, hcs⟩ := List.cons.inj h
      cases hk : chunk b bs with
      | mk k rest =>
        rw [hk] at hc hcs ih
        cases k with
        | ill | cut => cases hc
        | char d n =>
          cases hc
          rw [List.flatMap_cons, ih hcs, ← encodeChar_of_chunk hk]

/-- **Bytes are decoded just when they are an encoding.** -/
theorem decode?_eq_some_iff {bs : Bytes} {s : String} : decode? bs = some s ↔ encode s = bs := by
  have hs : encode s = s.toList.flatMap String.utf8EncodeChar := by
    rw [← encode_ofList, String.ofList_toList]
  rw [hs, decode?, Option.map_eq_some_iff]
  constructor
  · rintro ⟨cs, hcs, rfl⟩
    rw [String.toList_ofList]
    exact flatMap_encodeChar_of_chunks (mapM_eq_some_iff.mp hcs)
  · rintro rfl
    exact ⟨s.toList, mapM_eq_some_iff.mpr (char?_chunks_encode s.toList), String.ofList_toList⟩

end Text

end DevServer
