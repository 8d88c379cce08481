/-!
# Bytes as characters

A run of bytes is held as a string by letting each byte be the character of the same
code, so that text of no particular encoding can be cut and compared like any other.
-/

namespace RouteKeeper.Text

/-- The character of the same code as a byte. -/
def byteChar (b : UInt8) : Char :=
  Char.ofNat b.toNat

/-- The byte of the same code as a character below 256. -/
def charByte (c : Char) : UInt8 :=
  .ofNat c.toNat

/-- The string whose characters are the given bytes. -/
def ofBytes (bs : List UInt8) : String :=
  String.ofList (bs.map byteChar)

/-- The bytes that are the characters of a string. -/
def toBytes (s : String) : List UInt8 :=
  s.toList.map charByte

theorem charByte_byteChar (b : UInt8) : charByte (byteChar b) = b := by
  have valid : b.toNat.isValidChar := Or.inl (Nat.lt_trans b.toNat_lt (by decide))
  have code : (Char.ofNat b.toNat).toNat = b.toNat := by
    rw [Char.ofNat, dif_pos valid]
    rfl
  simp [charByte, byteChar, code]

@[simp]
theorem toBytes_ofBytes (bs : List UInt8) : toBytes (ofBytes bs) = bs := by
  simp [toBytes, ofBytes, Function.comp_def, charByte_byteChar]

end RouteKeeper.Text
