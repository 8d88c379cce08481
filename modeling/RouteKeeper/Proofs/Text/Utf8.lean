import RouteKeeper.Text.Utf8

/-!
# Reading strings that were written

The bytes of a character are read as that character with any bytes after them, so the bytes of a
string are read as the string.

## Implementation notes

A code of three or four bytes is told from the shorter ones, from surrogates and from numbers
that are too great by the range of the byte after the first. Those ranges are the only place
where it matters that the code is the code of a character.
-/

namespace RouteKeeper.Text

private theorem toNat_byte {n : Nat} (h : n < 256) : (UInt8.ofNat n).toNat = n :=
  UInt8.toNat_ofNat_of_lt' h

private theorem lt_of_isValidChar {v : Nat} (h : v.isValidChar) : v < 0x110000 := by
  rcases h with h | h
  · omega
  · exact h.2

/-- A byte in its range adds its low six bits. -/
theorem follow_cons {code x : Nat} {low high : UInt8} {ranges : List (UInt8 × UInt8)}
    {bs : List UInt8} (hx : x < 64) (hlow : low.toNat ≤ x + 128) (hhigh : x + 128 ≤ high.toNat) :
    follow code ((low, high) :: ranges) (UInt8.ofNat (x + 128) :: bs) =
      follow (code * 64 + x) ranges bs := by
  have hbyte : (UInt8.ofNat (x + 128)).toNat = x + 128 := toNat_byte (by omega)
  have hrange : low ≤ UInt8.ofNat (x + 128) ∧ UInt8.ofNat (x + 128) ≤ high := by
    rw [UInt8.le_iff_toNat_le, UInt8.le_iff_toNat_le, hbyte]
    exact ⟨hlow, hhigh⟩
  have hbits : (x + 128) % 64 = x := by omega
  rw [follow, if_pos hrange, hbyte, hbits]

/-- A byte that may be any continuation adds its low six bits. -/
theorem follow_any {code x : Nat} {ranges : List (UInt8 × UInt8)} {bs : List UInt8}
    (hx : x < 64) :
    follow code ((0x80, 0xbf) :: ranges) (UInt8.ofNat (x + 128) :: bs) =
      follow (code * 64 + x) ranges bs :=
  follow_cons hx (Nat.le_add_left 128 x) (show x + 128 ≤ 191 by omega)

section

variable {v : Nat} {b : UInt8}

/-- The first byte of one is the code. -/
theorem leading?_one (h : v < 0x80) (hb : b.toNat = v) : leading? b = some (v, []) := by
  simp [leading?, hb, h]

/-- The first byte of two has five bits of the code. -/
theorem leading?_two (hlow : 0x80 ≤ v) (hhigh : v < 0x800) (hb : b.toNat = v / 64 + 192) :
    leading? b = some (v / 64, [(0x80, 0xbf)]) := by
  have h1 : ¬v / 64 + 192 < 0x80 := by omega
  have h2 : ¬v / 64 + 192 < 0xc2 := by omega
  have h3 : v / 64 + 192 < 0xe0 := by omega
  simp [leading?, hb, h1, h2, h3]

/-- The first byte of three has four bits of the code. The byte after it keeps clear of codes
that take two bytes and of surrogates. -/
theorem leading?_three (hlow : 0x800 ≤ v) (hhigh : v < 0x10000) (hchar : v.isValidChar)
    (hb : b.toNat = v / 4096 + 224) :
    ∃ low high : UInt8, leading? b = some (v / 4096, [(low, high), (0x80, 0xbf)]) ∧
      low.toNat ≤ v / 64 % 64 + 128 ∧ v / 64 % 64 + 128 ≤ high.toNat := by
  by_cases hfirst : v / 4096 = 0
  · have hcode : 0xa0 ≤ v / 64 % 64 + 128 := by omega
    have hbits : v / 64 % 64 + 128 ≤ 0xbf := by omega
    exact ⟨0xa0, 0xbf, by simp [leading?, hb, hfirst], hcode, hbits⟩
  · by_cases hsurrogate : v / 4096 = 13
    · have hcode : v / 64 % 64 + 128 ≤ 0x9f := by
        rcases hchar with h | h
        · omega
        · omega
      exact ⟨0x80, 0x9f, by simp [leading?, hb, hsurrogate], Nat.le_add_left .., hcode⟩
    · have h1 : ¬v / 4096 + 224 < 0x80 := by omega
      have h2 : ¬v / 4096 + 224 < 0xc2 := by omega
      have h3 : v / 4096 + 224 < 0xf0 := by omega
      have hbits : v / 64 % 64 + 128 ≤ 0xbf := by omega
      exact ⟨0x80, 0xbf, by simp [leading?, hb, h1, h2, h3, hfirst, hsurrogate],
        Nat.le_add_left .., hbits⟩

/-- The first byte of four has three bits of the code. The byte after it keeps clear of codes
that take three bytes and of numbers above the last code. -/
theorem leading?_four (hlow : 0x10000 ≤ v) (hchar : v.isValidChar)
    (hb : b.toNat = v / 262144 + 240) :
    ∃ low high : UInt8,
      leading? b = some (v / 262144, [(low, high), (0x80, 0xbf), (0x80, 0xbf)]) ∧
      low.toNat ≤ v / 4096 % 64 + 128 ∧ v / 4096 % 64 + 128 ≤ high.toNat := by
  have hlast := lt_of_isValidChar hchar
  by_cases hfirst : v / 262144 = 0
  · have hcode : 0x90 ≤ v / 4096 % 64 + 128 := by omega
    have hbits : v / 4096 % 64 + 128 ≤ 0xbf := by omega
    exact ⟨0x90, 0xbf, by simp [leading?, hb, hfirst], hcode, hbits⟩
  · by_cases hend : v / 262144 = 4
    · have hcode : v / 4096 % 64 + 128 ≤ 0x8f := by omega
      exact ⟨0x80, 0x8f, by simp [leading?, hb, hend], Nat.le_add_left .., hcode⟩
    · have h1 : ¬v / 262144 + 240 < 0x80 := by omega
      have h2 : ¬v / 262144 + 240 < 0xc2 := by omega
      have h3 : ¬v / 262144 + 240 < 0xe0 := by omega
      have h4 : ¬v / 262144 + 240 = 0xe0 := by omega
      have h5 : ¬v / 262144 + 240 = 0xed := by omega
      have h6 : v / 262144 + 240 < 0xf4 := by omega
      have hbits : v / 4096 % 64 + 128 ≤ 0xbf := by omega
      exact ⟨0x80, 0xbf, by simp [leading?, hb, h1, h2, h3, h4, h5, h6, hfirst],
        Nat.le_add_left .., hbits⟩

end

/-- The bytes of a character are read as that character. -/
theorem readChar_utf8EncodeChar (c : Char) (rest : List UInt8) :
    ∃ b bs, String.utf8EncodeChar c = b :: bs ∧ readChar b (bs ++ rest) = (some c, rest) := by
  have hchar : c.val.toNat.isValidChar := c.valid
  have hcode : Char.ofNat c.val.toNat = c := c.ofNat_toNat
  have hbits (n : Nat) : n % 64 < 64 := Nat.mod_lt _ (by decide)
  unfold String.utf8EncodeChar
  simp only
  generalize c.val.toNat = v at *
  split
  · case isTrue h1 =>
      refine ⟨_, _, rfl, ?_⟩
      rw [readChar, leading?_one (v := v) (by omega) (toNat_byte (by omega))]
      simp [follow, hcode]
  · case isFalse h1 =>
      split
      · case isTrue h2 =>
          have hlead : v / 64 % 32 + 192 = v / 64 + 192 := by omega
          have hsum : v / 64 * 64 + v % 64 = v := by omega
          refine ⟨_, _, rfl, ?_⟩
          rw [hlead, readChar, leading?_two (v := v) (by omega) (by omega) (toNat_byte (by omega))]
          simp only [List.cons_append, List.nil_append]
          rw [follow_any (hbits v), follow, hsum, Option.map_some, hcode]
      · case isFalse h2 =>
          split
          · case isTrue h3 =>
              have hlead : v / 4096 % 16 + 224 = v / 4096 + 224 := by omega
              have hsum : (v / 4096 * 64 + v / 64 % 64) * 64 + v % 64 = v := by omega
              obtain ⟨low, high, hread, hlow, hhigh⟩ := leading?_three (v := v) (by omega)
                (by omega) hchar (toNat_byte (by omega))
              refine ⟨_, _, rfl, ?_⟩
              rw [hlead, readChar, hread]
              simp only [List.cons_append, List.nil_append]
              rw [follow_cons (hbits _) hlow hhigh, follow_any (hbits v), follow, hsum,
                Option.map_some, hcode]
          · case isFalse h3 =>
              have hlast := lt_of_isValidChar hchar
              have hlead : v / 262144 % 8 + 240 = v / 262144 + 240 := by omega
              have hsum : ((v / 262144 * 64 + v / 4096 % 64) * 64 + v / 64 % 64) * 64 + v % 64 =
                  v := by omega
              obtain ⟨low, high, hread, hlow, hhigh⟩ := leading?_four (v := v) (by omega) hchar
                (toNat_byte (by omega))
              refine ⟨_, _, rfl, ?_⟩
              rw [hlead, readChar, hread]
              simp only [List.cons_append, List.nil_append]
              rw [follow_cons (hbits _) hlow hhigh, follow_any (hbits _), follow_any (hbits v),
                follow, hsum, Option.map_some, hcode]

/-- The bytes of a string are read as its characters. -/
theorem readChars_utf8 (cs : List Char) :
    readChars (cs.flatMap String.utf8EncodeChar) = cs.map some := by
  induction cs with
  | nil => rw [List.flatMap_nil, readChars, List.map_nil]
  | cons c cs ih =>
      obtain ⟨b, bs, hbytes, hread⟩ :=
        readChar_utf8EncodeChar c (cs.flatMap String.utf8EncodeChar)
      rw [List.flatMap_cons, hbytes, List.cons_append, readChars, hread, ih, List.map_cons]

/-- The bytes of a string spell it. -/
@[simp] theorem ofUtf8?_utf8 (s : String) : ofUtf8? (utf8 s) = some s := by
  have hall (cs : List Char) : (cs.map some).mapM id = some cs := by
    induction cs with
    | nil => rfl
    | cons c cs ih => simp [ih]
  rw [ofUtf8?, utf8, readChars_utf8, hall]
  simp

/-- Different texts have different bytes. -/
theorem utf8_injective : Function.Injective utf8 := by
  intro s t h
  have hread : ofUtf8? (utf8 s) = ofUtf8? (utf8 t) := congrArg ofUtf8? h
  rw [ofUtf8?_utf8, ofUtf8?_utf8] at hread
  exact Option.some.inj hread

/-! ## One text behind another -/

theorem follow_append {code n : Nat} {ranges : List (UInt8 × UInt8)} {bs rest after : List UInt8}
    (h : follow code ranges bs = (some n, rest)) :
    follow code ranges (bs ++ after) = (some n, rest ++ after) := by
  induction ranges generalizing code bs with
  | nil =>
      cases h
      rfl
  | cons range ranges ih =>
      obtain ⟨low, high⟩ := range
      obtain _ | ⟨b, bs⟩ := bs
      · cases h
      · simp only [List.cons_append, follow] at h ⊢
        split at h
        · next hrange => rw [if_pos hrange, ih h]
        · cases h

theorem readChar_append {b : UInt8} {bs rest after : List UInt8} {c : Char}
    (h : readChar b bs = (some c, rest)) : readChar b (bs ++ after) = (some c, rest ++ after) := by
  unfold readChar at h ⊢
  split at h
  · cases h
  · next code ranges hleading =>
      obtain ⟨code', rest', hfollow⟩ : ∃ code' rest', follow code ranges bs = (code', rest') :=
        ⟨_, _, rfl⟩
      rw [hfollow] at h
      obtain _ | n := code'
      · cases h
      · cases h
        simp only [follow_append hfollow]
        rfl

theorem readChars_append {bs : List UInt8} (after : List UInt8) (h : none ∉ readChars bs) :
    readChars (bs ++ after) = readChars bs ++ readChars after := by
  fun_induction readChars bs with
  | case1 => rfl
  | case2 b bs read ih =>
      rw [List.mem_cons, not_or] at h
      obtain ⟨c, hc⟩ := Option.ne_none_iff_exists'.1 (Ne.symm h.1)
      have hread : readChar b (bs ++ after) = (some c, read.2 ++ after) :=
        readChar_append (Prod.ext hc rfl)
      rw [List.cons_append, readChars]
      simp only [hread, ih h.2, hc, List.cons_append]

theorem none_notMem_of_mapM {os : List (Option Char)} {cs : List Char}
    (h : os.mapM id = some cs) : none ∉ os := by
  induction os generalizing cs with
  | nil => simp
  | cons o os ih =>
      rw [List.mapM_cons] at h
      obtain ⟨c, hc, hrest⟩ := Option.bind_eq_some_iff.1 h
      obtain ⟨ds, hds, -⟩ := Option.bind_eq_some_iff.1 hrest
      rw [List.mem_cons, not_or]
      exact ⟨by rw [show o = some c from hc]; simp, ih hds⟩

/-- Two runs of bytes that spell strings spell them one behind the other. -/
theorem ofUtf8?_append {as bs : List UInt8} {s t : String} (hs : ofUtf8? as = some s)
    (ht : ofUtf8? bs = some t) : ofUtf8? (as ++ bs) = some (s ++ t) := by
  obtain ⟨cs, hcs, rfl⟩ := Option.map_eq_some_iff.1 hs
  obtain ⟨ds, hds, rfl⟩ := Option.map_eq_some_iff.1 ht
  rw [ofUtf8?, readChars_append bs (none_notMem_of_mapM hcs), List.mapM_append, hcs, hds]
  simp [String.ofList_append]

end RouteKeeper.Text
