/-!
# UTF-8

Bytes are cut into chunks: a well-formed sequence gives its character, and a longest part of a
sequence that could still have become well formed (or a byte that starts none) gives `none`.
`decode?` succeeds when every chunk is a character, `decodeLossy` puts U+FFFD for each other chunk,
and `firstFault` locates the first one.
-/

namespace DevServer

abbrev Bytes := List UInt8

namespace Text

/-- The UTF-8 encoding of a text. -/
def encode (s : String) : Bytes := s.toUTF8.toList

/--
What a leading byte asks for: how many bytes follow, the range of the first of them, and the bits
of the leading byte itself. The ranges exclude overlong forms, surrogates and values past U+10FFFF.
-/
structure Lead where
  follow : Nat
  low : Nat
  high : Nat
  bits : Nat

def Lead.of? (b : Nat) : Option Lead :=
  if 0xC2 ≤ b ∧ b ≤ 0xDF then some ⟨1, 0x80, 0xBF, b - 0xC0⟩
  else if b = 0xE0 then some ⟨2, 0xA0, 0xBF, 0⟩
  else if b = 0xED then some ⟨2, 0x80, 0x9F, 0xD⟩
  else if 0xE1 ≤ b ∧ b ≤ 0xEF then some ⟨2, 0x80, 0xBF, b - 0xE0⟩
  else if b = 0xF0 then some ⟨3, 0x90, 0xBF, 0⟩
  else if 0xF1 ≤ b ∧ b ≤ 0xF3 then some ⟨3, 0x80, 0xBF, b - 0xF0⟩
  else if b = 0xF4 then some ⟨3, 0x80, 0x8F, 4⟩
  else none

/-- Outcome of reading one chunk. -/
inductive Chunk where
  /-- A well-formed sequence of `size` bytes. -/
  | char (c : Char) (size : Nat)
  /-- `size` bytes that no byte sequence completes as it goes on. -/
  | ill (size : Nat)
  /-- The input ends inside a sequence, after `size` bytes of it. -/
  | cut (size : Nat)
  deriving DecidableEq, Repr

/-- Reads `more` further bytes, the first between `low` and `high`, onto the value `acc`. -/
def follow : (more low high acc size : Nat) → Bytes → Chunk × Bytes
  | 0, _, _, acc, size, rest => (.char (Char.ofNat acc) size, rest)
  | _ + 1, _, _, _, size, [] => (.cut size, [])
  | more + 1, low, high, acc, size, b :: rest =>
    if low ≤ b.toNat ∧ b.toNat ≤ high then
      follow more 0x80 0xBF (acc * 64 + b.toNat % 64) (size + 1) rest
    else (.ill size, b :: rest)

/-- The chunk that starts with `b`. -/
def chunk (b : UInt8) (rest : Bytes) : Chunk × Bytes :=
  if b.toNat < 0x80 then (.char (Char.ofNat b.toNat) 1, rest)
  else match Lead.of? b.toNat with
    | some l => follow l.follow l.low l.high l.bits 1 rest
    | none => (.ill 1, rest)

theorem length_follow_le (more low high acc size : Nat) (bs : Bytes) :
    (follow more low high acc size bs).2.length ≤ bs.length := by
  induction more generalizing low high acc size bs with
  | zero => simp [follow]
  | succ more ih =>
    cases bs with
    | nil => simp [follow]
    | cons b rest =>
      simp only [follow]
      split
      · exact Nat.le_succ_of_le (ih ..)
      · simp

theorem length_chunk_le (b : UInt8) (bs : Bytes) : (chunk b bs).2.length ≤ bs.length := by
  unfold chunk
  split
  · simp
  · split
    · exact length_follow_le ..
    · simp

/-- All chunks, in order. -/
def chunks : Bytes → List Chunk
  | [] => []
  | b :: rest => (chunk b rest).1 :: chunks (chunk b rest).2
termination_by bs => bs.length
decreasing_by
  have := length_chunk_le b rest
  simp only [List.length_cons]
  omega

def Chunk.char? : Chunk → Option Char
  | .char c _ => some c
  | .ill _ | .cut _ => none

def Chunk.size : Chunk → Nat
  | .char _ n | .ill n | .cut n => n

/-- The text, if every byte belongs to a well-formed sequence. -/
def decode? (bs : Bytes) : Option String :=
  ((chunks bs).mapM Chunk.char?).map String.ofList

/-- The text with U+FFFD for every chunk that is no character. -/
def decodeLossy (bs : Bytes) : String :=
  String.ofList ((chunks bs).map fun k => k.char?.getD '\uFFFD')

/-- The first chunk that is no character, with the number of bytes before it. -/
def firstFault (bs : Bytes) : Option (Nat × Chunk) :=
  go 0 (chunks bs)
where
  go (before : Nat) : List Chunk → Option (Nat × Chunk)
    | [] => none
    | .char _ n :: ks => go (before + n) ks
    | k :: _ => some (before, k)

/-- Says where decoding fails, if it does. -/
def faultText (bs : Bytes) : Option String :=
  (firstFault bs).map fun
    | (at_, .ill n) => s!"invalid utf-8 sequence of {n} bytes from index {at_}"
    | (at_, _) => s!"incomplete utf-8 byte sequence from index {at_}"

end Text

end DevServer
