import RouteKeeper.Proofs.DesiredTable
import RouteKeeper.Proofs.LeadingBits
import RouteKeeper.Proofs.Spelling

/-!
# The grammar of an intent

A subnet is named by four numerals with points between them, a slash and one more numeral. The first
four have up to three digits and stand for at most 255, the last has one or two and stands for at
most 32; zeros may stand in front. A next hop is named by four numerals for at most 255, in which no
zero stands in front. Blanks may stand around either text. Such pairs of texts are read, and no
others.
-/

namespace RouteKeeper

namespace Text

/-- The number that decimal digits stand for, most significant first. -/
def valueOf (cs : List Char) : Nat :=
  cs.foldl (fun n c => 10 * n + (c.toNat - '0'.toNat)) 0

/-- One or more decimal digits that stand for a number up to a bound. -/
structure IsNumeral (bound : Nat) (cs : List Char) : Prop where
  ne_nil : cs ≠ []
  isDigit : ∀ c ∈ cs, c.isDigit = true
  valueOf_le : valueOf cs ≤ bound

variable {n : Nat} {cs : List Char}

theorem digit?_eq (c : Char) :
    digit? c = if c.isDigit then some (c.toNat - '0'.toNat) else none := by
  have hdigit : c.isDigit = decide ('0' ≤ c ∧ c ≤ '9') := by
    simp [Char.isDigit, Char.le_def]
  rw [digit?, hdigit]
  simp

theorem readDigits_eq_some_iff {k : Nat} :
    readDigits k cs = some n ↔ (∀ c ∈ cs, c.isDigit = true) ∧
      cs.foldl (fun n c => 10 * n + (c.toNat - '0'.toNat)) k = n := by
  induction cs generalizing k with
  | nil => simp [readDigits]
  | cons c rest ih =>
      rw [readDigits, digit?_eq]
      by_cases hc : c.isDigit = true
      · simp [hc, ih]
      · simp [hc]

/-- A number is denoted by its digits, and by nothing else. -/
theorem number?_eq_some_iff_valueOf :
    number? cs = some n ↔ cs ≠ [] ∧ (∀ c ∈ cs, c.isDigit = true) ∧ valueOf cs = n := by
  cases cs with
  | nil => simp [number?]
  | cons c rest =>
      rw [number?, readDigits_eq_some_iff]
      simp [valueOf]

/-- A numeral denotes what its digits stand for. -/
theorem isNumeral_and_valueOf_iff {bound : Nat} (hn : n ≤ bound) :
    IsNumeral bound cs ∧ valueOf cs = n ↔ number? cs = some n := by
  rw [number?_eq_some_iff_valueOf]
  constructor
  · rintro ⟨⟨hne, hdigit, -⟩, hvalue⟩
    exact ⟨hne, hdigit, hvalue⟩
  · rintro ⟨hne, hdigit, rfl⟩
    exact ⟨⟨hne, hdigit, hn⟩, rfl⟩

/-- A numeral in which zeros may stand in front, in at most `width` digits. -/
def IsPadded (width bound : Nat) (cs : List Char) : Prop :=
  IsNumeral bound cs ∧ cs.length ≤ width

/-- A numeral in which no zero stands in front. -/
def IsPlain (bound : Nat) (cs : List Char) : Prop :=
  IsNumeral bound cs ∧ (cs.head? = some '0' → cs.length = 1)

theorem padsTo_iff {width bound : Nat} (hn : n ≤ bound) :
    PadsTo width n cs ↔ IsPadded width bound cs ∧ valueOf cs = n := by
  rw [PadsTo, ← number?_eq_some_iff, ← isNumeral_and_valueOf_iff hn, IsPadded, and_assoc,
    and_left_comm]

theorem eq_digits_iff {bound : Nat} (hn : n ≤ bound) :
    cs = digits n ↔ IsPlain bound cs ∧ valueOf cs = n := by
  rw [IsPlain, and_right_comm, isNumeral_and_valueOf_iff hn]
  constructor
  · rintro rfl
    exact ⟨number?_digits n, length_digits_of_head?⟩
  · rintro ⟨hnumber, hplain⟩
    exact (digits_number? hnumber fun h => h.2 (hplain h.1)).symm

theorem surrounds_self (cs : List Char) : Surrounds cs cs :=
  ⟨[], [], nofun, nofun, by simp⟩

end Text

namespace Address

open Text

variable {x : Address} {cs : List Char}

/-- Four numerals of one kind with points between them stand for the octets of an address. -/
def DottedBy (numeral : List Char → Prop) (x : Address) (cs : List Char) : Prop :=
  ∃ a b c d, numeral a ∧ numeral b ∧ numeral c ∧ numeral d ∧
    cs = a ++ '.' :: (b ++ '.' :: (c ++ '.' :: d)) ∧
    x = ofOctets (valueOf a) (valueOf b) (valueOf c) (valueOf d)

/-- Numerals that stand for what is spelled stand for the octets of an address when they spell
them. -/
theorem dottedBy_iff {numeral : List Char → Prop} (spelled : Nat → List Char → Prop)
    (hbound : ∀ cs, numeral cs → valueOf cs ≤ 255)
    (hspelled : ∀ n ≤ 255, ∀ cs, spelled n cs ↔ numeral cs ∧ valueOf cs = n) :
    DottedBy numeral x cs ↔
      ∃ a b c d, spelled (x.octet 3) a ∧ spelled (x.octet 2) b ∧ spelled (x.octet 1) c ∧
        spelled (x.octet 0) d ∧ cs = a ++ '.' :: (b ++ '.' :: (c ++ '.' :: d)) := by
  have hoctet (place : Nat) (cs : List Char) :
      spelled (x.octet place) cs ↔ numeral cs ∧ valueOf cs = x.octet place :=
    hspelled _ (x.octet_le place) cs
  simp only [hoctet]
  constructor
  · rintro ⟨a, b, c, d, ha, hb, hc, hd, hcs, rfl⟩
    obtain ⟨h₃, h₂, h₁, h₀⟩ :=
      octet_ofOctets (hbound a ha) (hbound b hb) (hbound c hc) (hbound d hd)
    exact ⟨a, b, c, d, ⟨ha, h₃.symm⟩, ⟨hb, h₂.symm⟩, ⟨hc, h₁.symm⟩, ⟨hd, h₀.symm⟩, hcs⟩
  · rintro ⟨a, b, c, d, ⟨ha, h₃⟩, ⟨hb, h₂⟩, ⟨hc, h₁⟩, ⟨hd, h₀⟩, hcs⟩
    refine ⟨a, b, c, d, ha, hb, hc, hd, hcs, ?_⟩
    rw [h₃, h₂, h₁, h₀, ofOctets_octet]

theorem dottedBy_isPadded_iff : x.DottedBy (IsPadded 3 255) cs ↔ x.SpelledBy cs :=
  dottedBy_iff (PadsTo 3) (fun _ h => h.1.valueOf_le) fun _ hn _ => padsTo_iff hn

theorem dottedBy_isPlain_iff : x.DottedBy (IsPlain 255) cs ↔ cs = x.chars := by
  rw [dottedBy_iff (fun n cs => cs = digits n) (fun _ h => h.1.valueOf_le)
    fun _ hn _ => eq_digits_iff hn]
  constructor
  · rintro ⟨_, _, _, _, rfl, rfl, rfl, rfl, hcs⟩
    exact hcs
  · exact fun hcs => ⟨_, _, _, _, rfl, rfl, rfl, rfl, hcs⟩

/-- A text names an address when its octets stand in it as plain numerals, with blanks around. -/
def NamedBy (x : Address) (s : String) : Prop :=
  ∃ core, Surrounds core s.toList ∧ x.DottedBy (IsPlain 255) core

/-- What is read of a text is the address that it names. -/
theorem namedBy_iff {s : String} :
    x.NamedBy s ↔ ofChars? (trim s.toList) = some x := by
  rw [ofChars?_trim_eq_some_iff, NamedBy]
  simp only [dottedBy_isPlain_iff, exists_eq_right]

end Address

namespace Network

open Text

variable {n : Network}

/-- A text names a network when its octets stand in it as numerals of up to three digits, then a
slash and the prefix length as a numeral of up to two, with blanks around. -/
def NamedBy (n : Network) (s : String) : Prop :=
  ∃ address length, Surrounds (address ++ '/' :: length) s.toList ∧
    n.address.DottedBy (IsPadded 3 255) address ∧ IsPadded 2 32 length ∧ valueOf length = n.length

/-- What is read of a text is the network that it names. -/
theorem namedBy_iff {s : String} :
    n.NamedBy s ↔ ofChars? (trim s.toList) = some n := by
  rw [ofChars?_trim_eq_some_iff, NamedBy]
  simp only [SpelledBy, Address.dottedBy_isPadded_iff, padsTo_iff n.length_le]
  constructor
  · rintro ⟨address, length, hcore, haddress, hlength⟩
    exact ⟨_, ⟨address, length, haddress, hlength, rfl⟩, hcore⟩
  · rintro ⟨_, ⟨address, length, haddress, hlength, rfl⟩, hcore⟩
    exact ⟨address, length, hcore, haddress, hlength⟩

/-- A text names one network at most. -/
theorem NamedBy.unique {m : Network} {s : String} (hm : m.NamedBy s) (hn : n.NamedBy s) : m = n :=
  Option.some.inj ((namedBy_iff.mp hm).symm.trans (namedBy_iff.mp hn))

end Network

namespace Intent

variable {subnetText nextHopText : String} {i j : Intent}

/-- A pair of texts is read as the named subnet without its host bits and the named next hop. -/
theorem parse_eq_ok_iff_namedBy :
    parse subnetText nextHopText = .ok i ↔
      ∃ n : Network, n.NamedBy subnetText ∧ i.subnet = n.truncate ∧
        i.nextHop.NamedBy nextHopText := by
  simp only [parse_eq_ok_iff, Network.namedBy_iff, Address.namedBy_iff,
    Network.ofChars?_trim_eq_some_iff, Address.ofChars?_trim_eq_some_iff]
  constructor
  · rintro ⟨⟨n, cs, hsubnet, hspelled, hsubnetText⟩, hnextHopText⟩
    exact ⟨n, ⟨cs, hspelled, hsubnetText⟩, hsubnet.symm, hnextHopText⟩
  · rintro ⟨n, ⟨cs, hspelled, hsubnetText⟩, hsubnet, hnextHopText⟩
    exact ⟨⟨n, cs, hsubnet.symm, hspelled, hsubnetText⟩, hnextHopText⟩

/-- A pair of texts is read when both name something. -/
theorem exists_parse_eq_ok_iff :
    (∃ i, parse subnetText nextHopText = .ok i) ↔
      (∃ n : Network, n.NamedBy subnetText) ∧ ∃ x : Address, x.NamedBy nextHopText := by
  simp only [parse_eq_ok_iff_namedBy]
  constructor
  · rintro ⟨i, n, hn, -, hx⟩
    exact ⟨⟨n, hn⟩, i.nextHop, hx⟩
  · rintro ⟨⟨n, hn⟩, x, hx⟩
    exact ⟨.of n x, n, hn, rfl, hx⟩

theorem parse_of_no_subnet (h : ¬∃ n : Network, n.NamedBy subnetText) :
    parse subnetText nextHopText =
      .error (.invalidAddress "remote subnet" subnetText networkComplaint) := by
  have hnone : Network.ofChars? (Text.trim subnetText.toList) = none :=
    Option.eq_none_iff_forall_ne_some.mpr fun n hn => h ⟨n, Network.namedBy_iff.mpr hn⟩
  simp only [parse, hnone]

theorem parse_of_no_nextHop (hsubnet : ∃ n : Network, n.NamedBy subnetText)
    (h : ¬∃ x : Address, x.NamedBy nextHopText) :
    parse subnetText nextHopText =
      .error (.invalidAddress "next hop" nextHopText addressComplaint) := by
  obtain ⟨n, hn⟩ := hsubnet
  have hnone : Address.ofChars? (Text.trim nextHopText.toList) = none :=
    Option.eq_none_iff_forall_ne_some.mpr fun x hx => h ⟨x, Address.namedBy_iff.mpr hx⟩
  simp only [parse, Network.namedBy_iff.mp hn, hnone]

/-- What is written of a canonical intent is read as the intent. -/
theorem parse_text (hi : i.Canonical) : parse i.subnet.text i.nextHop.text = .ok i := by
  have hsubnet : i.subnet.SpelledBy i.subnet.chars :=
    Network.ofChars?_eq_some_iff.mp i.subnet.ofChars?_chars
  refine parse_eq_ok_iff.mpr ⟨⟨i.subnet, i.subnet.chars, hi, hsubnet, ?_⟩, ?_⟩
  · rw [Network.text, String.toList_ofList]
    exact Text.surrounds_self _
  · rw [Address.text, String.toList_ofList]
    exact Text.surrounds_self _

/-- **The grammar of an intent.** A pair of texts is read exactly when the first names a network and
the second an address. The subnet that is read has the prefix length of the named network, of whose
leading bits it keeps that many, and all other bits are clear; so two first texts are read as one
subnet exactly when they name networks of one prefix length that agree on that many leading bits.
What is written of an intent that was read is read as the same intent. Otherwise the failure quotes
the first text as it was given if that names no network, and else the second. -/
theorem parse_exact (subnetText nextHopText : String) :
    ((∃ i, parse subnetText nextHopText = .ok i) ↔
      (∃ n : Network, n.NamedBy subnetText) ∧ ∃ x : Address, x.NamedBy nextHopText) ∧
    (∀ i, parse subnetText nextHopText = .ok i →
      (∃ n : Network, n.NamedBy subnetText ∧ i.subnet.length = n.length ∧
        ∀ k < 32, i.subnet.leadingBit k = (decide (k < n.length) && n.leadingBit k)) ∧
      i.nextHop.NamedBy nextHopText ∧
      parse i.subnet.text i.nextHop.text = .ok i) ∧
    (∀ subnetText' nextHopText' i j, parse subnetText nextHopText = .ok i →
      parse subnetText' nextHopText' = .ok j →
      ∀ m n : Network, m.NamedBy subnetText → n.NamedBy subnetText' →
        (i.subnet = j.subnet ↔
          m.length = n.length ∧ ∀ k < m.length, m.leadingBit k = n.leadingBit k)) ∧
    ((¬∃ n : Network, n.NamedBy subnetText) → parse subnetText nextHopText =
      .error (.invalidAddress "remote subnet" subnetText "invalid IP address syntax")) ∧
    ((∃ n : Network, n.NamedBy subnetText) → (¬∃ x : Address, x.NamedBy nextHopText) →
      parse subnetText nextHopText =
        .error (.invalidAddress "next hop" nextHopText "invalid IPv4 address syntax")) := by
  refine ⟨exists_parse_eq_ok_iff, fun i hi => ?_, ?_, parse_of_no_subnet, parse_of_no_nextHop⟩
  · obtain ⟨n, hn, hsubnet, hx⟩ := parse_eq_ok_iff_namedBy.mp hi
    refine ⟨⟨n, hn, ?_, fun k hk => ?_⟩, hx, parse_text (parse_canonical hi)⟩
    · rw [hsubnet]
      rfl
    · rw [hsubnet, n.leadingBit_truncate hk]
  · intro subnetText' nextHopText' i j hi hj m n hm hn
    obtain ⟨m', hm', hi, -⟩ := parse_eq_ok_iff_namedBy.mp hi
    obtain ⟨n', hn', hj, -⟩ := parse_eq_ok_iff_namedBy.mp hj
    rw [hi, hj, hm'.unique hm, hn'.unique hn]
    exact Network.truncate_eq_truncate_iff

/-- Two first texts name networks that agree on their leading nine bits and are read as one subnet.
A prefix length out of range is reported before a next hop with a zero in front. -/
theorem parse_exact_of_padded :
    let i : Intent := ⟨⟨.ofOctets 10 128 0 0, 9, by decide⟩, .ofOctets 192 168 3 1⟩
    let j : Intent := ⟨⟨.ofOctets 10 128 0 0, 9, by decide⟩, .ofOctets 10 0 0 9⟩
    parse "\t010.193.200.7/09 " "192.168.3.1\n" = .ok i ∧
      parse "10.255.0.1/9" "10.0.0.9" = .ok j ∧ i.subnet = j.subnet ∧
      parse i.subnet.text i.nextHop.text = .ok i ∧
      parse "10.1.0.0/33" "192.168.03.1" =
        .error (.invalidAddress "remote subnet" "10.1.0.0/33" "invalid IP address syntax") ∧
      parse " 10.1.0.0/16" "192.168.03.1" =
        .error (.invalidAddress "next hop" "192.168.03.1" "invalid IPv4 address syntax") := by
  intro i j
  have hi : parse "\t010.193.200.7/09 " "192.168.3.1\n" = .ok i := rfl
  have hj : parse "10.255.0.1/9" "10.0.0.9" = .ok j := rfl
  have hm : Network.NamedBy ⟨.ofOctets 10 193 200 7, 9, by decide⟩ "\t010.193.200.7/09 " :=
    Network.namedBy_iff.mpr rfl
  have hn : Network.NamedBy ⟨.ofOctets 10 255 0 1, 9, by decide⟩ "10.255.0.1/9" :=
    Network.namedBy_iff.mpr rfl
  have hsixteen : Network.NamedBy ⟨.ofOctets 10 1 0 0, 16, by decide⟩ " 10.1.0.0/16" :=
    Network.namedBy_iff.mpr rfl
  have hrange : ¬∃ n : Network, n.NamedBy "10.1.0.0/33" := by
    rintro ⟨n, hn⟩
    cases Network.namedBy_iff.mp hn
  have hzero : ¬∃ x : Address, x.NamedBy "192.168.03.1" := by
    rintro ⟨x, hx⟩
    cases Address.namedBy_iff.mp hx
  obtain ⟨-, hread, hsame, -⟩ := parse_exact "\t010.193.200.7/09 " "192.168.3.1\n"
  obtain ⟨-, -, -, hno, -⟩ := parse_exact "10.1.0.0/33" "192.168.03.1"
  obtain ⟨-, -, -, -, hlost⟩ := parse_exact " 10.1.0.0/16" "192.168.03.1"
  exact ⟨hi, hj, (hsame _ _ i j hi hj _ _ hm hn).mpr ⟨rfl, by decide⟩, (hread i hi).2.2,
    hno hrange, hlost ⟨_, hsixteen⟩ hzero⟩

end Intent

end RouteKeeper
