import DevServer.Text.Utf8

/-!
# Octets

Bytes that are worked on as characters: each byte is the character of its number, below 256.
-/

namespace DevServer.Text

/-- Text that has one character for each byte. -/
abbrev Octets := List Char

def Octets.ofBytes (bs : Bytes) : Octets := bs.map fun b => Char.ofNat b.toNat

def Octets.toBytes (cs : Octets) : Bytes := cs.map fun c => c.toNat.toUInt8

/-- The bytes of a text in UTF-8. -/
def Octets.ofString (s : String) : Octets := ofBytes (encode s)

theorem Octets.toBytes_ofBytes (bs : Bytes) : toBytes (ofBytes bs) = bs := by
  have h : ∀ b : UInt8, (Char.ofNat b.toNat).toNat.toUInt8 = b := by
    intro b
    have valid : b.toNat.isValidChar := Or.inl (by have := b.toNat_lt; omega)
    have same : (Char.ofNat b.toNat).toNat = b.toNat := by
      unfold Char.ofNat
      rw [dif_pos valid]
      rfl
    simp [same]
  simp [toBytes, ofBytes, Function.comp_def, h]

end DevServer.Text
