import RouteKeeper.Network

/-!
# The leading bits of a network

The prefix length tells how many leading bits of the address name the network. Clearing the host
bits keeps these and clears all others, so two networks of one prefix length become the same
exactly when they agree on that many leading bits.
-/

namespace RouteKeeper.Network

variable {m n : Network} {k : Nat}

/-- A bit of the address, counted from the most significant one. -/
def leadingBit (n : Network) (k : Nat) : Bool :=
  n.address.value.testBit (31 - k)

/-- The leading bits and the prefix length are all there is to a network. -/
theorem eq_of_leadingBit (hlength : m.length = n.length)
    (hbits : ∀ k < 32, m.leadingBit k = n.leadingBit k) : m = n := by
  obtain ⟨⟨x, hx⟩, p, hp⟩ := m
  obtain ⟨⟨y, hy⟩, q, hq⟩ := n
  obtain rfl : p = q := hlength
  have hvalue : x = y := by
    refine Nat.eq_of_testBit_eq fun place => ?_
    by_cases hplace : place < 32
    · have hbit : x.testBit (31 - (31 - place)) = y.testBit (31 - (31 - place)) :=
        hbits (31 - place) (by omega)
      rwa [show 31 - (31 - place) = place by omega] at hbit
    · have hhigh : 2 ^ 32 ≤ 2 ^ place := Nat.pow_le_pow_right (by decide) (by omega)
      rw [Nat.testBit_lt_two_pow (Nat.lt_of_lt_of_le hx hhigh),
        Nat.testBit_lt_two_pow (Nat.lt_of_lt_of_le hy hhigh)]
  subst hvalue
  rfl

/-- Clearing the host bits keeps the leading bits that name the network and clears the others. -/
theorem leadingBit_truncate (n : Network) (hk : k < 32) :
    n.truncate.leadingBit k = (decide (k < n.length) && n.leadingBit k) := by
  have hvalue : n.truncate.address.value =
      n.address.value >>> (32 - n.length) <<< (32 - n.length) := by
    rw [Nat.shiftLeft_eq, Nat.shiftRight_eq_div_pow, ← Nat.one_shiftLeft]
    rfl
  have hle := n.length_le
  rw [leadingBit, leadingBit, hvalue, Nat.testBit_shiftLeft, Nat.testBit_shiftRight]
  by_cases hkept : k < n.length
  · have hplace : 32 - n.length + (31 - k - (32 - n.length)) = 31 - k := by omega
    rw [hplace, decide_eq_true (by omega), decide_eq_true hkept]
  · rw [decide_eq_false (by omega), decide_eq_false hkept, Bool.false_and, Bool.false_and]

/-- Two networks are the same without host bits when they have one prefix length and agree on that
many leading bits. -/
theorem truncate_eq_truncate_iff :
    m.truncate = n.truncate ↔
      m.length = n.length ∧ ∀ k < m.length, m.leadingBit k = n.leadingBit k := by
  constructor
  · intro h
    have hlength : m.truncate.length = n.truncate.length := by rw [h]
    change m.length = n.length at hlength
    refine ⟨hlength, fun k hk => ?_⟩
    have hlt : k < 32 := Nat.lt_of_lt_of_le hk m.length_le
    have hbit : m.truncate.leadingBit k = n.truncate.leadingBit k := by rw [h]
    simpa [leadingBit_truncate, hlt, hk, ← hlength] using hbit
  · rintro ⟨hlength, hbits⟩
    refine eq_of_leadingBit hlength fun k hk => ?_
    rw [leadingBit_truncate m hk, leadingBit_truncate n hk, ← hlength]
    by_cases hkept : k < m.length
    · rw [hbits k hkept]
    · rw [decide_eq_false hkept, Bool.false_and, Bool.false_and]

end RouteKeeper.Network
