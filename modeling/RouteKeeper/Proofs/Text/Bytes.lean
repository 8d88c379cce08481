import RouteKeeper.Text.Bytes
import RouteKeeper.Text.Utf8

/-!
# The bytes of a text as characters

A character below 128 is its own byte. The bytes of any other character are all at least 128, so
that none of them is taken for a character below.
-/

namespace RouteKeeper.Text

/-- The bytes of a character, each as the character of the same code. -/
def byteChars (c : Char) : List Char :=
  (String.utf8EncodeChar c).map byteChar

/-- The bytes of a text are those of its characters. -/
theorem toList_ofBytes_utf8 (s : String) :
    (ofBytes (utf8 s)).toList = s.toList.flatMap byteChars := by
  rw [ofBytes, utf8, String.toList_ofList, List.map_flatMap]
  rfl

theorem toNat_byteChar (b : UInt8) : (byteChar b).toNat = b.toNat := by
  have valid : b.toNat.isValidChar := Or.inl (Nat.lt_trans b.toNat_lt (by decide))
  rw [byteChar, Char.ofNat, dif_pos valid]
  rfl

/-- A character below 128 is its own byte. -/
theorem byteChars_of_lt {c : Char} (h : c.toNat < 128) : byteChars c = [c] := by
  have hcode : c.val.toNat ≤ 127 := Nat.le_of_lt_succ h
  have hbyte : byteChar (UInt8.ofNat c.val.toNat) = c := by
    rw [byteChar, UInt8.toNat_ofNat_of_lt' (by omega : c.val.toNat < 256)]
    exact c.ofNat_toNat
  rw [byteChars, String.utf8EncodeChar]
  simp only [if_pos hcode, List.map_cons, List.map_nil]
  exact congrArg (fun d => [d]) hbyte

/-- No byte of another character is below 128. -/
theorem le_of_mem_byteChars {c d : Char} (hc : 128 ≤ c.toNat) (hd : d ∈ byteChars c) :
    128 ≤ d.toNat := by
  have hfirst : ¬c.val.toNat ≤ 127 := Nat.not_le_of_lt hc
  have hbyte {n : Nat} (hlow : 128 ≤ n) (hhigh : n < 256) : 128 ≤ (UInt8.ofNat n).toNat := by
    rwa [UInt8.toNat_ofNat_of_lt' hhigh]
  obtain ⟨b, hb, rfl⟩ := List.mem_map.mp hd
  rw [toNat_byteChar]
  rw [String.utf8EncodeChar] at hb
  simp only [if_neg hfirst] at hb
  -- The first byte has its two highest bits set and each byte after it the highest one.
  split at hb
  · simp only [List.mem_cons, List.not_mem_nil, or_false] at hb
    rcases hb with rfl | rfl
    · exact hbyte (by omega) (by omega)
    · exact hbyte (by omega) (by omega)
  · split at hb
    · simp only [List.mem_cons, List.not_mem_nil, or_false] at hb
      rcases hb with rfl | rfl | rfl
      · exact hbyte (by omega) (by omega)
      · exact hbyte (by omega) (by omega)
      · exact hbyte (by omega) (by omega)
    · simp only [List.mem_cons, List.not_mem_nil, or_false] at hb
      rcases hb with rfl | rfl | rfl | rfl
      · exact hbyte (by omega) (by omega)
      · exact hbyte (by omega) (by omega)
      · exact hbyte (by omega) (by omega)
      · exact hbyte (by omega) (by omega)

end RouteKeeper.Text
