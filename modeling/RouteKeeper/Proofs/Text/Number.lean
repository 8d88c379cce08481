import RouteKeeper.Text.Number

/-!
# Decimal digits, written and read

The digits of a number denote it. The other way round, a run of digits is what its number
is written as, provided it does not start with a superfluous zero.
-/

namespace RouteKeeper.Text

/-- The ten digits and their values belong together. -/
theorem digit?_digitChar : ∀ d < 10, digit? (digitChar d) = some d := by
  decide

theorem digit?_eq_some_iff {c : Char} {d : Nat} : digit? c = some d ↔ d < 10 ∧ c = digitChar d := by
  constructor
  · intro h
    unfold digit? at h
    split at h
    · rename_i hc
      obtain ⟨hlow, hhigh⟩ : 48 ≤ c.toNat ∧ c.toNat ≤ 57 := hc
      have hd : c.toNat - 48 = d := Option.some.inj h
      have hall : ∀ n < 10, Char.ofNat (n + 48) = digitChar n := by decide
      have hlt : d < 10 := by omega
      refine ⟨hlt, ?_⟩
      rw [← hall d hlt, show d + 48 = c.toNat by omega, Char.ofNat_toNat]
    · cases h
  · rintro ⟨hd, rfl⟩
    exact digit?_digitChar d hd

theorem digits_of_lt {n : Nat} (h : n < 10) : digits n = [digitChar n] := by
  rw [digits, if_pos h]

theorem digits_of_le {n : Nat} (h : 10 ≤ n) :
    digits n = digits (n / 10) ++ [digitChar (n % 10)] := by
  rw [digits, if_neg (by omega)]

/-- One more digit at the end is one more digit written. -/
theorem digits_append {k d : Nat} (hk : 0 < k) (hd : d < 10) :
    digits k ++ [digitChar d] = digits (10 * k + d) := by
  have hle : 10 ≤ 10 * k + d := by omega
  rw [digits_of_le hle, show (10 * k + d) / 10 = k by omega, show (10 * k + d) % 10 = d by omega]

theorem digits_ne_nil (n : Nat) : digits n ≠ [] := by
  unfold digits
  split <;> simp

/-- What is written of a number are digits. -/
theorem isDigit_of_mem_digits {n : Nat} {c : Char} (h : c ∈ digits n) : isDigit c = true := by
  induction n using digits.induct with
  | case1 n hn =>
      rw [digits_of_lt hn, List.mem_singleton] at h
      rw [h, isDigit, digit?_digitChar n hn, Option.isSome_some]
  | case2 n hn ih =>
      rw [digits_of_le (by omega), List.mem_append, List.mem_singleton] at h
      rcases h with h | h
      · exact ih h
      · rw [h, isDigit, digit?_digitChar _ (by omega), Option.isSome_some]

theorem length_digits_le {n k : Nat} (h : n < Nat.pow 10 (k + 1)) :
    (digits n).length ≤ k + 1 := by
  induction k generalizing n with
  | zero => simp [digits_of_lt (n := n) h]
  | succ k ih =>
      by_cases hn : n < 10
      · simp [digits_of_lt hn]
      · have hdiv : n / 10 < Nat.pow 10 (k + 1) :=
          Nat.div_lt_of_lt_mul (Nat.mul_comm _ _ ▸ h)
        rw [digits_of_le (by omega), List.length_append, List.length_singleton]
        exact Nat.succ_le_succ (ih hdiv)

/-- Only zero is written with a zero in front. -/
theorem head?_digits_ne {n : Nat} (h : 0 < n) : (digits n).head? ≠ some '0' := by
  induction n using digits.induct with
  | case1 n hn =>
      have hall : ∀ m < 10, 0 < m → digitChar m ≠ '0' := by decide
      rw [digits_of_lt hn, List.head?_cons]
      exact fun e => hall n hn h (Option.some.inj e)
  | case2 n hn ih =>
      have hhead := ih (by omega)
      rw [digits_of_le (by omega)]
      cases hdigits : digits (n / 10) with
      | nil => exact absurd hdigits (digits_ne_nil _)
      | cons c rest => simpa [hdigits] using hhead

theorem length_digits_of_head? {n : Nat} (h : (digits n).head? = some '0') :
    (digits n).length = 1 := by
  rcases Nat.eq_zero_or_pos n with rfl | hn
  · rw [digits_of_lt (by decide)]
    rfl
  · exact absurd h (head?_digits_ne hn)

private theorem readDigits_append (k : Nat) (cs : List Char) (c : Char) :
    readDigits k (cs ++ [c]) =
      (readDigits k cs).bind fun n => (digit? c).map fun d => 10 * n + d := by
  induction cs generalizing k with
  | nil => cases hc : digit? c <;> simp [readDigits, hc]
  | cons c' rest ih => cases hc' : digit? c' <;> simp [readDigits, hc', ih]

/-- The digits of a number denote it. -/
theorem number?_digits (n : Nat) : number? (digits n) = some n := by
  have hread : readDigits 0 (digits n) = some n := by
    induction n using digits.induct with
    | case1 n hn => simp [digits_of_lt hn, readDigits, digit?_digitChar n hn]
    | case2 n hn ih =>
        rw [digits_of_le (by omega), readDigits_append, ih, Option.bind_some,
          digit?_digitChar _ (by omega), Option.map_some]
        congr 1
        omega
  rw [← hread]
  cases hdigits : digits n with
  | nil => exact absurd hdigits (digits_ne_nil n)
  | cons c rest => rfl

private theorem digits_readDigits {k n : Nat} {cs : List Char} (hk : 0 < k)
    (h : readDigits k cs = some n) : digits n = digits k ++ cs := by
  induction cs generalizing k with
  | nil =>
      cases h
      rw [List.append_nil]
  | cons c rest ih =>
      obtain ⟨d, hd, hrest⟩ := Option.bind_eq_some_iff.mp h
      obtain ⟨hlt, rfl⟩ := digit?_eq_some_iff.mp hd
      rw [ih (by omega) hrest, ← digits_append hk hlt, List.append_assoc]
      rfl

/-- A run of digits without superfluous zero is what its number is written as. -/
theorem digits_number? {cs : List Char} {n : Nat} (h : number? cs = some n)
    (hzero : ¬(cs.head? = some '0' ∧ cs.length ≠ 1)) : digits n = cs := by
  cases cs with
  | nil => cases h
  | cons c rest =>
      obtain ⟨d, hd, hrest⟩ := Option.bind_eq_some_iff.mp h
      obtain ⟨hlt, rfl⟩ := digit?_eq_some_iff.mp hd
      rw [Nat.mul_zero, Nat.zero_add] at hrest
      by_cases hpos : 0 < d
      · rw [digits_readDigits hpos hrest, digits_of_lt hlt]
        rfl
      · have hd : d = 0 := by omega
        subst hd
        have hnil : rest = [] := by simpa [digitChar] using hzero
        subst hnil
        cases hrest
        exact digits_of_lt hlt

end RouteKeeper.Text
