import RouteKeeper.Network
import RouteKeeper.Proofs.Text.Number

/-!
# Addresses and networks, written and read

What is written of an address or a network is read as the same again. The strict grammar
of addresses has one text for each address; that of networks has several.
-/

namespace RouteKeeper

namespace Address

variable {separator : Char} {cs a b : List Char}

theorem splitAt_ne_nil (cs : List Char) : splitAt separator cs ≠ [] := by
  cases cs with
  | nil => simp [splitAt]
  | cons c rest =>
      simp only [splitAt]
      split
      · simp
      · split <;> simp

/-- A text without the separator is one part. -/
theorem splitAt_of_not_mem (h : separator ∉ cs) : splitAt separator cs = [cs] := by
  induction cs with
  | nil => rfl
  | cons c rest ih =>
      have hc : c ≠ separator := fun hc => h (hc ▸ List.mem_cons_self)
      have hrest : separator ∉ rest := fun hrest => h (List.mem_cons_of_mem _ hrest)
      rw [splitAt, if_neg hc, ih hrest]

/-- The first part goes up to the first separator. -/
theorem splitAt_append (h : separator ∉ a) :
    splitAt separator (a ++ separator :: b) = a :: splitAt separator b := by
  induction a with
  | nil => simp [splitAt]
  | cons c rest ih =>
      have hc : c ≠ separator := fun hc => h (hc ▸ List.mem_cons_self)
      have hrest : separator ∉ rest := fun hrest => h (List.mem_cons_of_mem _ hrest)
      rw [List.cons_append, splitAt, if_neg hc, ih hrest]

/-- The parts with separators between them are the text. -/
theorem intercalate_splitAt (cs : List Char) :
    [separator].intercalate (splitAt separator cs) = cs := by
  induction cs with
  | nil => rfl
  | cons c rest ih =>
      simp only [splitAt]
      cases hparts : splitAt separator rest with
      | nil => exact absurd hparts (splitAt_ne_nil rest)
      | cons part parts =>
          rw [hparts] at ih
          split
          · rename_i hc
            subst hc
            rw [List.intercalate_cons_of_ne_nil (List.cons_ne_nil _ _), ih]
            rfl
          · cases parts with
            | nil =>
                simp at ih
                simp [ih]
            | cons next others =>
                simp at ih ⊢
                simp [ih]

theorem not_mem_digits {c : Char} (hc : Text.isDigit c = false) (n : Nat) : c ∉ Text.digits n := by
  intro h
  rw [Text.isDigit_of_mem_digits h] at hc
  cases hc

theorem lenientOctet?_digits {n : Nat} (h : n ≤ 255) : lenientOctet? (Text.digits n) = some n := by
  have hlength : (Text.digits n).length ≤ 3 :=
    Text.length_digits_le (Nat.lt_of_le_of_lt h (by decide))
  simp [lenientOctet?, hlength, Text.number?_digits, h]

theorem strictOctet?_digits {n : Nat} (h : n ≤ 255) : strictOctet? (Text.digits n) = some n := by
  have hzero : ¬((Text.digits n).head? = some '0' ∧ (Text.digits n).length ≠ 1) :=
    fun h => h.2 (Text.length_digits_of_head? h.1)
  rw [strictOctet?, if_neg hzero, lenientOctet?_digits h]

/-- The strict grammar has one text for each octet. -/
theorem strictOctet?_eq_some_iff {n : Nat} :
    strictOctet? cs = some n ↔ n ≤ 255 ∧ cs = Text.digits n := by
  constructor
  · intro h
    unfold strictOctet? at h
    split at h
    · cases h
    · rename_i hzero
      unfold lenientOctet? at h
      split at h
      · obtain ⟨hnumber, hle⟩ := Option.filter_eq_some_iff.mp h
        exact ⟨by simpa using hle, (Text.digits_number? hnumber hzero).symm⟩
      · cases h
  · rintro ⟨hn, rfl⟩
    exact strictOctet?_digits hn

theorem octet_le (x : Address) (place : Nat) : x.octet place ≤ 255 :=
  Nat.le_of_lt_succ (Nat.mod_lt _ (by decide))

/-- An address is made of its octets. -/
theorem ofOctets_octet (x : Address) :
    ofOctets (x.octet 3) (x.octet 2) (x.octet 1) (x.octet 0) = x := by
  obtain ⟨value, hlt⟩ := x
  simp only [ofOctets, octet, mk.injEq]
  omega

/-- The octets of an address are those it was made of. -/
theorem octet_ofOctets {a b c d : Nat} (ha : a ≤ 255) (hb : b ≤ 255) (hc : c ≤ 255)
    (hd : d ≤ 255) :
    (ofOctets a b c d).octet 3 = a ∧ (ofOctets a b c d).octet 2 = b ∧
      (ofOctets a b c d).octet 1 = c ∧ (ofOctets a b c d).octet 0 = d := by
  simp only [ofOctets, octet]
  omega

/-- An address is written in at most fifteen characters. -/
theorem length_chars_le (x : Address) : x.chars.length ≤ 15 := by
  have hoctet (place : Nat) : (Text.digits (x.octet place)).length ≤ 3 :=
    Text.length_digits_le (Nat.lt_of_le_of_lt (octet_le x place) (by decide))
  have h₃ := hoctet 3
  have h₂ := hoctet 2
  have h₁ := hoctet 1
  have h₀ := hoctet 0
  simp only [chars, List.length_append, List.length_cons]
  omega

/-- Any reader that reads the digits of octets reads what is written of an address. -/
theorem dotted?_chars {octet? : List Char → Option Nat}
    (hoctet : ∀ n ≤ 255, octet? (Text.digits n) = some n) (x : Address) :
    dotted? octet? x.chars = some x := by
  have hpoint (n : Nat) : '.' ∉ Text.digits n := not_mem_digits (by decide) n
  have hparts : splitAt '.' x.chars = [Text.digits (x.octet 3), Text.digits (x.octet 2),
      Text.digits (x.octet 1), Text.digits (x.octet 0)] := by
    rw [chars, splitAt_append (hpoint _), splitAt_append (hpoint _), splitAt_append (hpoint _),
      splitAt_of_not_mem (hpoint _)]
  simp [dotted?, hparts, hoctet, octet_le, ofOctets_octet]

/-- The strict grammar has one text for each address. -/
theorem ofChars?_eq_some_iff {x : Address} : ofChars? cs = some x ↔ cs = x.chars := by
  constructor
  · intro h
    unfold ofChars? dotted? at h
    split at h
    · rename_i a b c d hparts
      simp only [Option.bind_eq_bind, Option.bind_eq_some_iff] at h
      obtain ⟨na, ha, nb, hb, nc, hc, nd, hd, hx⟩ := h
      obtain ⟨hna, rfl⟩ := strictOctet?_eq_some_iff.mp ha
      obtain ⟨hnb, rfl⟩ := strictOctet?_eq_some_iff.mp hb
      obtain ⟨hnc, rfl⟩ := strictOctet?_eq_some_iff.mp hc
      obtain ⟨hnd, rfl⟩ := strictOctet?_eq_some_iff.mp hd
      cases hx
      obtain ⟨h₃, h₂, h₁, h₀⟩ := octet_ofOctets hna hnb hnc hnd
      rw [← intercalate_splitAt cs, hparts, chars, h₃, h₂, h₁, h₀]
      simp
    · cases h
  · rintro rfl
    exact dotted?_chars (fun _ => strictOctet?_digits) x

/-- An address in its strict grammar is the address written. -/
theorem parse?_eq_some_iff {s : String} {x : Address} : parse? s = some x ↔ s = x.text := by
  rw [parse?, ofChars?_eq_some_iff, text]
  constructor
  · intro h
    rw [← h, String.ofList_toList]
  · rintro rfl
    rw [String.toList_ofList]

end Address

namespace Network

/-- What is written of a network is read as the network. -/
theorem ofChars?_chars (n : Network) : ofChars? n.chars = some n := by
  have hslash (k : Nat) : '/' ∉ Text.digits k := Address.not_mem_digits (by decide) k
  have haddress : '/' ∉ n.address.chars := by simp [Address.chars, hslash]
  have hparts : Address.splitAt '/' n.chars = [n.address.chars, Text.digits n.length] := by
    rw [chars, Address.splitAt_append haddress, Address.splitAt_of_not_mem (hslash _)]
  have hlength : length? (Text.digits n.length) = some n.length := by
    have hshort : (Text.digits n.length).length ≤ 2 :=
      Text.length_digits_le (Nat.lt_of_le_of_lt n.length_le (by decide))
    simp [length?, hshort, Text.number?_digits, n.length_le]
  have hread : Address.dotted? Address.lenientOctet? n.address.chars = some n.address :=
    Address.dotted?_chars (fun _ => Address.lenientOctet?_digits) _
  simp [ofChars?, hparts, hlength, hread, ofLength?, n.length_le]

theorem parse?_text (n : Network) : parse? n.text = some n := by
  rw [parse?, text, String.toList_ofList, ofChars?_chars]

/-- A network is written in at most eighteen characters. -/
theorem length_chars_le (n : Network) : n.chars.length ≤ 18 := by
  have haddress := n.address.length_chars_le
  have hlength : (Text.digits n.length).length ≤ 2 :=
    Text.length_digits_le (Nat.lt_of_le_of_lt n.length_le (by decide))
  simp only [chars, List.length_append, List.length_cons]
  omega

end Network

end RouteKeeper
