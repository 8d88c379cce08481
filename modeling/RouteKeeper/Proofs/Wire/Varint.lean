import Mathlib.Algebra.Group.Nat.Defs
import RouteKeeper.Wire.Varint

/-!
# Spellings of a number

A number has more than one spelling as bytes of seven bits, since zeros may be added at its most
significant end. A reader takes every spelling of at most ten bytes of a number below `2 ^ 64`,
with any bytes after it. The written form is the spelling of the declared size.
-/

namespace RouteKeeper.Wire

/-- Bytes of seven bits each, of which all but the last have their top bit set, and the number
that they spell. -/
inductive Septets : List UInt8 → Nat → Prop
  /-- The most significant seven bits. -/
  | last {b : UInt8} (h : b.toNat < 128) : Septets [b] b.toNat
  /-- The least significant seven bits, with more to come. -/
  | more {b : UInt8} {bs : List UInt8} {n : Nat} (h : 128 ≤ b.toNat) (hn : Septets bs n) :
      Septets (b :: bs) (b.toNat - 128 + 128 * n)

/-- A spelling that is not too long of a number that is not too great. -/
structure IsVarint (bs : List UInt8) (n : Nat) : Prop where
  septets : Septets bs n
  length_le : bs.length ≤ 10
  lt : n < 2 ^ 64

theorem Septets.length_pos {bs : List UInt8} {n : Nat} (h : Septets bs n) : 0 < bs.length := by
  cases h <;> exact Nat.succ_pos _

/-- One byte more makes room for seven bits more. -/
theorem two_pow_septet {left : Nat} (h : 0 < left) :
    2 ^ (7 * (left + 1) - 6) = 128 * 2 ^ (7 * left - 6) := by
  rw [show 7 * (left + 1) - 6 = 7 + (7 * left - 6) by omega, Nat.pow_add]

/-- A spelling is read to its end if the last of ten bytes need not be more than one. -/
theorem Septets.readVarintOf {bs : List UInt8} {n : Nat} (h : Septets bs n) {left : Nat}
    (hlength : bs.length ≤ left) (hlt : n < 2 ^ (7 * left - 6)) (rest : List UInt8) :
    readVarintOf left (bs ++ rest) = some (n, rest) := by
  induction h generalizing left with
  | @last b h =>
      obtain ⟨left, rfl⟩ := Nat.exists_eq_add_one_of_ne_zero (Nat.ne_zero_of_lt hlength)
      have hlast : ¬(left = 0 ∧ 1 < b.toNat) := by
        rintro ⟨rfl, hgreat⟩
        exact Nat.not_lt_of_le hgreat hlt
      rw [List.singleton_append, Wire.readVarintOf, if_pos h, if_neg hlast]
  | @more b bs n h hn ih =>
      obtain ⟨left, rfl⟩ := Nat.exists_eq_add_one_of_ne_zero (Nat.ne_zero_of_lt hlength)
      have hleft : bs.length ≤ left := Nat.le_of_succ_le_succ hlength
      have hpos : 0 < left := Nat.lt_of_lt_of_le hn.length_pos hleft
      have hpow := two_pow_septet hpos
      have hnext : n < 2 ^ (7 * left - 6) := by omega
      rw [List.cons_append, Wire.readVarintOf, if_neg (Nat.not_lt_of_le h), ih hleft hnext]
      rfl

/-- What is read is spelled by the bytes that were taken. -/
theorem septets_of_readVarintOf {left : Nat} {bs rest : List UInt8} {n : Nat}
    (h : readVarintOf left bs = some (n, rest)) :
    ∃ front, bs = front ++ rest ∧ Septets front n ∧ front.length ≤ left ∧
      n < 2 ^ (7 * left - 6) := by
  induction left generalizing bs n with
  | zero => cases h
  | succ left ih =>
      cases bs with
      | nil => cases h
      | cons b bs =>
          rw [readVarintOf] at h
          split at h
          · case isTrue hb =>
              split at h
              · cases h
              · case isFalse hlast =>
                  cases h
                  refine ⟨[b], rfl, .last hb, Nat.le_add_left .., ?_⟩
                  cases left with
                  | zero => exact Nat.lt_succ_of_le (Nat.le_of_not_lt fun h => hlast ⟨rfl, h⟩)
                  | succ left =>
                      have hseptet : 2 ^ 7 ≤ 2 ^ (7 * (left + 1 + 1) - 6) :=
                        Nat.pow_le_pow_right (by decide) (by omega)
                      exact Nat.lt_of_lt_of_le hb hseptet
          · case isFalse hb =>
              obtain ⟨⟨m, rest'⟩, hread, hvalue⟩ := Option.map_eq_some_iff.mp h
              cases hvalue
              obtain ⟨front, rfl, hspelled, hlength, hlt⟩ := ih hread
              have hpos : 0 < left := Nat.lt_of_lt_of_le hspelled.length_pos hlength
              have hpow := two_pow_septet hpos
              have hbyte : b.toNat < 256 := b.toNat_lt
              exact ⟨b :: front, rfl, .more (Nat.le_of_not_lt hb) hspelled,
                Nat.succ_le_succ hlength, by omega⟩

/-- A number is read exactly from its spellings. -/
theorem readVarint_eq_some_iff {bs rest : List UInt8} {n : Nat} :
    readVarint bs = some (n, rest) ↔ ∃ front, IsVarint front n ∧ bs = front ++ rest := by
  constructor
  · intro h
    obtain ⟨front, hbs, hspelled, hlength, hlt⟩ := septets_of_readVarintOf h
    exact ⟨front, ⟨hspelled, hlength, hlt⟩, hbs⟩
  · rintro ⟨front, h, rfl⟩
    exact h.septets.readVarintOf h.length_le h.lt rest

/-- Every spelling is read. -/
theorem IsVarint.readVarint {bs : List UInt8} {n : Nat} (h : IsVarint bs n)
    (rest : List UInt8) : readVarint (bs ++ rest) = some (n, rest) :=
  readVarint_eq_some_iff.mpr ⟨bs, h, rfl⟩

/-- The written form spells the number. -/
theorem septets_varint (n : Nat) : Septets (varint n) n := by
  induction n using varint.induct with
  | case1 n hn =>
      have hbyte : (UInt8.ofNat n).toNat = n :=
        UInt8.toNat_ofNat_of_lt' (show n < 256 by omega)
      have h : Septets [UInt8.ofNat n] _ := .last (by rwa [hbyte])
      rw [hbyte] at h
      rwa [varint, if_pos hn]
  | case2 n hn ih =>
      have hbyte : (UInt8.ofNat (128 + n % 128)).toNat = 128 + n % 128 :=
        UInt8.toNat_ofNat_of_lt' (show 128 + n % 128 < 256 by omega)
      have h : Septets (UInt8.ofNat (128 + n % 128) :: varint (n / 128)) _ :=
        .more (by omega) ih
      have hsum : 128 + n % 128 - 128 + 128 * (n / 128) = n := by omega
      rw [hbyte, hsum] at h
      rwa [varint, if_neg hn]

theorem length_varint (n : Nat) : (varint n).length = varintSize n := by
  induction n using varint.induct with
  | case1 n hn => rw [varint, varintSize, if_pos hn, if_pos hn, List.length_singleton]
  | case2 n hn ih =>
      rw [varint, varintSize, if_neg hn, if_neg hn, List.length_cons, ih, Nat.add_comm]

/-- Seven bits more take one byte more. -/
theorem varintSize_le {n k : Nat} (h : n < 2 ^ (7 * (k + 1))) : varintSize n ≤ k + 1 := by
  induction k generalizing n with
  | zero =>
      have hseptet : n < 128 := h
      exact Nat.le_of_eq (by rw [varintSize, if_pos hseptet])
  | succ k ih =>
      rw [varintSize]
      split
      · omega
      · have hpow : 2 ^ (7 * (k + 1 + 1)) = 128 * 2 ^ (7 * (k + 1)) := by
          rw [show 7 * (k + 1 + 1) = 7 + 7 * (k + 1) by omega, Nat.pow_add]
        have hrest := ih (n := n / 128) (by omega)
        omega

/-- The written form of a number below `2 ^ 64` is read. -/
theorem isVarint_varint {n : Nat} (h : n < 2 ^ 64) : IsVarint (varint n) n where
  septets := septets_varint n
  length_le := by
    rw [length_varint]
    exact varintSize_le (k := 9) (Nat.lt_trans h (by decide))
  lt := h

end RouteKeeper.Wire
