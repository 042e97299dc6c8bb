import Curriculum.Files.Path

/-! # Latin-1

Bytes can be kept as text in which each character stands for one byte. No byte is lost that way,
whatever the bytes spell. -/

namespace Curriculum.Latin1

/-- The text with a character for each byte. -/
def decode (bytes : Bytes) : Text := bytes.map fun b => Char.ofNat b.toNat

/-- The bytes that the characters below 256 stand for. -/
def encode (t : Text) : Bytes := t.map fun c => UInt8.ofNat c.toNat

theorem encode_decode (bytes : Bytes) : encode (decode bytes) = bytes := by
  have h (b : UInt8) : UInt8.ofNat (Char.ofNat b.toNat).toNat = b := by
    have hb : b.toNat < 256 := b.toNat_lt
    have hv : b.toNat.isValidChar := Or.inl (by omega)
    have hc : (Char.ofNat b.toNat).toNat = b.toNat := by
      rw [Char.ofNat, dif_pos hv]
      rfl
    simp [hc]
  simp only [encode, decode, List.map_map, Function.comp_def, h, List.map_id_fun', id]

/-- A text in bytes that spell it. -/
def ofText (t : Text) : Text := decode (Utf8.encode t)

def ofPath (path : Text) : Text := decode (Path.bytes path)

def toPath (t : Text) : Text := Path.ofBytes (encode t)

end Curriculum.Latin1
