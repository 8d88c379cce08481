import Mathlib.Data.List.TakeWhile
import RouteKeeper.Intent
import RouteKeeper.Proofs.Notation

/-!
# The spellings of an intent

A subnet has many spellings: zeros may stand before each of its numbers as long as there is room,
its host bits may be any, and blanks may stand around it. A next hop has one spelling but for the
blanks. What is read is exactly what is spelled, so two pairs of texts are read as one intent when
both spell it.
-/

namespace RouteKeeper

namespace Text

/-- A text is the digits of a number with zeros before them, in at most `width` characters. -/
def PadsTo (width n : Nat) (cs : List Char) : Prop :=
  cs.length ≤ width ∧ ∃ zeros, cs = List.replicate zeros '0' ++ digits n

/-- A text is another one with blanks around it. -/
def Surrounds (core cs : List Char) : Prop :=
  ∃ before after, (∀ c ∈ before, isBlank c = true) ∧ (∀ c ∈ after, isBlank c = true) ∧
    cs = before ++ (core ++ after)

variable {n : Nat} {cs core : List Char}

theorem number?_zero_cons (c : Char) (rest : List Char) :
    number? ('0' :: c :: rest) = number? (c :: rest) := rfl

/-- What denotes a number are its digits with any zeros before them. -/
theorem number?_eq_some_iff :
    number? cs = some n ↔ ∃ zeros, cs = List.replicate zeros '0' ++ digits n := by
  constructor
  · intro h
    induction cs with
    | nil => cases h
    | cons c rest ih =>
        by_cases hzero : (c :: rest).head? = some '0' ∧ (c :: rest).length ≠ 1
        · obtain rfl : c = '0' := Option.some.inj hzero.1
          cases rest with
          | nil => exact absurd rfl hzero.2
          | cons c' rest' =>
              obtain ⟨zeros, hrest⟩ := ih h
              exact ⟨zeros + 1, by rw [hrest]; rfl⟩
        · exact ⟨0, (digits_number? h hzero).symm⟩
  · rintro ⟨zeros, rfl⟩
    induction zeros with
    | zero => exact number?_digits n
    | succ zeros ih =>
        cases hpadded : List.replicate zeros '0' ++ digits n with
        | nil => exact absurd (List.append_eq_nil_iff.mp hpadded).2 (digits_ne_nil n)
        | cons c rest =>
            rw [List.replicate_succ, List.cons_append, hpadded, number?_zero_cons, ← hpadded, ih]

/-- A padded number is written in digits. -/
theorem isDigit_of_padsTo {width : Nat} (h : PadsTo width n cs) {c : Char} (hc : c ∈ cs) :
    isDigit c = true := by
  obtain ⟨-, zeros, rfl⟩ := h
  rcases List.mem_append.mp hc with hc | hc
  · rw [List.eq_of_mem_replicate hc]
    rfl
  · exact isDigit_of_mem_digits hc

theorem not_mem_of_padsTo {width : Nat} (h : PadsTo width n cs) {c : Char}
    (hc : isDigit c = false) : c ∉ cs := by
  intro hmem
  rw [isDigit_of_padsTo h hmem] at hc
  cases hc

theorem isBlank_of_isDigit {c : Char} (h : isDigit c = true) : isBlank c = false := by
  obtain ⟨d, hd⟩ := Option.isSome_iff_exists.mp h
  obtain ⟨hlt, rfl⟩ := digit?_eq_some_iff.mp hd
  have hall : ∀ d < 10, isBlank (digitChar d) = false := by decide
  exact hall d hlt

/-- Trimming takes blanks away and nothing else. -/
theorem surrounds_trim (cs : List Char) : Surrounds (trim cs) cs := by
  have hstart : cs = cs.takeWhile isBlank ++ trimStart cs := (List.takeWhile_append_dropWhile).symm
  have hend (cs : List Char) : cs = trimEnd cs ++ (cs.reverse.takeWhile isBlank).reverse := by
    rw [trimEnd, ← List.reverse_append, List.takeWhile_append_dropWhile, List.reverse_reverse]
  refine ⟨cs.takeWhile isBlank, ((trimStart cs).reverse.takeWhile isBlank).reverse, ?_, ?_, ?_⟩
  · exact fun c hc => List.mem_takeWhile_imp hc
  · exact fun c hc => List.mem_takeWhile_imp (List.mem_reverse.mp hc)
  · rw [trim, ← hend]
    exact hstart

theorem dropWhile_isBlank (h : ∀ c ∈ cs, isBlank c = false) : cs.dropWhile isBlank = cs := by
  cases cs with
  | nil => rfl
  | cons c rest => simp [h c List.mem_cons_self]

/-- A text without blanks is what trimming leaves of it with blanks around. -/
theorem trim_of_surrounds (h : Surrounds core cs) (hcore : ∀ c ∈ core, isBlank c = false) :
    trim cs = core := by
  obtain ⟨before, after, hbefore, hafter, rfl⟩ := h
  have hend : trimEnd (core ++ after) = core := by
    have hcore' : ∀ c ∈ core.reverse, isBlank c = false := fun c hc =>
      hcore c (List.mem_reverse.mp hc)
    rw [trimEnd, List.reverse_append,
      List.dropWhile_append_of_pos fun c hc => hafter c (List.mem_reverse.mp hc),
      dropWhile_isBlank hcore', List.reverse_reverse]
  rw [trim, trimStart, List.dropWhile_append_of_pos hbefore]
  cases core with
  | nil =>
      rw [List.nil_append, List.dropWhile_eq_nil_iff.mpr hafter]
      rfl
  | cons c rest =>
      have hstart : (c :: rest ++ after).dropWhile isBlank = c :: rest ++ after := by
        simp [hcore c List.mem_cons_self]
      rw [hstart, hend]

end Text

namespace Address

variable {cs : List Char} {x : Address} {n : Nat}

theorem lenientOctet?_eq_some_iff :
    lenientOctet? cs = some n ↔ n ≤ 255 ∧ Text.PadsTo 3 n cs := by
  by_cases hlength : cs.length ≤ 3
  · rw [lenientOctet?, if_pos hlength, Option.filter_eq_some_iff, Text.number?_eq_some_iff]
    simp [Text.PadsTo, hlength, and_comm]
  · simp [lenientOctet?, Text.PadsTo, hlength]

/-- A text spells an address when its octets stand in it with points between them, each in at most
three digits. -/
def SpelledBy (x : Address) (cs : List Char) : Prop :=
  ∃ a b c d, Text.PadsTo 3 (x.octet 3) a ∧ Text.PadsTo 3 (x.octet 2) b ∧
    Text.PadsTo 3 (x.octet 1) c ∧ Text.PadsTo 3 (x.octet 0) d ∧
    cs = a ++ '.' :: (b ++ '.' :: (c ++ '.' :: d))

/-- What is read with lenient octets is what is spelled. -/
theorem dotted?_lenient_eq_some_iff : dotted? lenientOctet? cs = some x ↔ x.SpelledBy cs := by
  constructor
  · intro h
    unfold dotted? at h
    split at h
    · rename_i a b c d hparts
      simp only [Option.bind_eq_bind, Option.bind_eq_some_iff] at h
      obtain ⟨na, ha, nb, hb, nc, hc, nd, hd, hx⟩ := h
      obtain ⟨hna, ha⟩ := lenientOctet?_eq_some_iff.mp ha
      obtain ⟨hnb, hb⟩ := lenientOctet?_eq_some_iff.mp hb
      obtain ⟨hnc, hc⟩ := lenientOctet?_eq_some_iff.mp hc
      obtain ⟨hnd, hd⟩ := lenientOctet?_eq_some_iff.mp hd
      cases hx
      obtain ⟨h₃, h₂, h₁, h₀⟩ := octet_ofOctets hna hnb hnc hnd
      refine ⟨a, b, c, d, by rwa [h₃], by rwa [h₂], by rwa [h₁], by rwa [h₀], ?_⟩
      rw [← intercalate_splitAt cs, hparts]
      simp
    · cases h
  · rintro ⟨a, b, c, d, ha, hb, hc, hd, rfl⟩
    have hpoint {place : Nat} {cs : List Char} (h : Text.PadsTo 3 (x.octet place) cs) : '.' ∉ cs :=
      Text.not_mem_of_padsTo h (by decide)
    have hread {place : Nat} {cs : List Char} (h : Text.PadsTo 3 (x.octet place) cs) :
        lenientOctet? cs = some (x.octet place) :=
      lenientOctet?_eq_some_iff.mpr ⟨x.octet_le place, h⟩
    have hparts : splitAt '.' (a ++ '.' :: (b ++ '.' :: (c ++ '.' :: d))) = [a, b, c, d] := by
      rw [splitAt_append (hpoint ha), splitAt_append (hpoint hb), splitAt_append (hpoint hc),
        splitAt_of_not_mem (hpoint hd)]
    simp [dotted?, hparts, hread ha, hread hb, hread hc, hread hd, ofOctets_octet]

/-- A spelled address is written in digits and points. -/
theorem mem_of_spelledBy (h : x.SpelledBy cs) {c : Char} (hc : c ∈ cs) :
    c = '.' ∨ Text.isDigit c = true := by
  obtain ⟨a₃, a₂, a₁, a₀, h₃, h₂, h₁, h₀, rfl⟩ := h
  simp only [List.mem_append, List.mem_cons] at hc
  rcases hc with hc | rfl | hc | rfl | hc | rfl | hc
  · exact Or.inr (Text.isDigit_of_padsTo h₃ hc)
  · exact Or.inl rfl
  · exact Or.inr (Text.isDigit_of_padsTo h₂ hc)
  · exact Or.inl rfl
  · exact Or.inr (Text.isDigit_of_padsTo h₁ hc)
  · exact Or.inl rfl
  · exact Or.inr (Text.isDigit_of_padsTo h₀ hc)

theorem isBlank_of_spelledBy (h : x.SpelledBy cs) : ∀ c ∈ cs, Text.isBlank c = false := by
  intro c hc
  rcases mem_of_spelledBy h hc with rfl | hdigit
  · decide
  · exact Text.isBlank_of_isDigit hdigit

/-- What is written of an address is the spelling without zeros before an octet. -/
theorem chars_spelledBy (x : Address) : x.SpelledBy x.chars :=
  dotted?_lenient_eq_some_iff.mp (dotted?_chars (fun _ => lenientOctet?_digits) x)

/-- What is read without the blanks around it is what is written between them. -/
theorem ofChars?_trim_eq_some_iff :
    ofChars? (Text.trim cs) = some x ↔ Text.Surrounds x.chars cs := by
  rw [ofChars?_eq_some_iff]
  constructor
  · intro h
    exact h ▸ Text.surrounds_trim cs
  · intro h
    exact Text.trim_of_surrounds h (isBlank_of_spelledBy x.chars_spelledBy)

end Address

namespace Network

variable {n : Network} {cs : List Char} {k : Nat}

theorem length?_eq_some_iff : length? cs = some k ↔ k ≤ 32 ∧ Text.PadsTo 2 k cs := by
  by_cases hlength : cs.length ≤ 2
  · rw [length?, if_pos hlength, Option.filter_eq_some_iff, Text.number?_eq_some_iff]
    simp [Text.PadsTo, hlength, and_comm]
  · simp [length?, Text.PadsTo, hlength]

/-- A text spells a network when its address stands in it, a slash, and the prefix length in at most
two digits. -/
def SpelledBy (n : Network) (cs : List Char) : Prop :=
  ∃ address length, n.address.SpelledBy address ∧ Text.PadsTo 2 n.length length ∧
    cs = address ++ '/' :: length

/-- What is read as a network is what is spelled. -/
theorem ofChars?_eq_some_iff : ofChars? cs = some n ↔ n.SpelledBy cs := by
  constructor
  · intro h
    unfold ofChars? at h
    split at h
    · rename_i address length hparts
      simp only [Option.bind_eq_bind, Option.bind_eq_some_iff] at h
      obtain ⟨x, hx, k, hk, hn⟩ := h
      obtain ⟨hle, hk⟩ := length?_eq_some_iff.mp hk
      rw [ofLength?, dif_pos hle] at hn
      cases hn
      refine ⟨address, length, Address.dotted?_lenient_eq_some_iff.mp hx, hk, ?_⟩
      rw [← Address.intercalate_splitAt cs, hparts]
      simp
    · cases h
  · rintro ⟨address, length, haddress, hlength, rfl⟩
    have hslash : '/' ∉ address := fun hmem => by
      rcases Address.mem_of_spelledBy haddress hmem with h | h
      · exact absurd h (by decide)
      · exact absurd h (by decide)
    have hparts : Address.splitAt '/' (address ++ '/' :: length) = [address, length] := by
      rw [Address.splitAt_append hslash,
        Address.splitAt_of_not_mem (Text.not_mem_of_padsTo hlength (by decide))]
    simp [ofChars?, hparts, Address.dotted?_lenient_eq_some_iff.mpr haddress,
      length?_eq_some_iff.mpr ⟨n.length_le, hlength⟩, ofLength?, n.length_le]

/-- A spelled network has no blanks in it. -/
theorem isBlank_of_spelledBy (h : n.SpelledBy cs) : ∀ c ∈ cs, Text.isBlank c = false := by
  obtain ⟨address, length, haddress, hlength, rfl⟩ := h
  intro c hc
  simp only [List.mem_append, List.mem_cons] at hc
  rcases hc with hc | rfl | hc
  · exact Address.isBlank_of_spelledBy haddress c hc
  · decide
  · exact Text.isBlank_of_isDigit (Text.isDigit_of_padsTo hlength hc)

/-- What is read without the blanks around it is what is spelled between them. -/
theorem ofChars?_trim_eq_some_iff :
    ofChars? (Text.trim cs) = some n ↔ ∃ core, n.SpelledBy core ∧ Text.Surrounds core cs := by
  rw [ofChars?_eq_some_iff]
  constructor
  · exact fun h => ⟨_, h, Text.surrounds_trim cs⟩
  · rintro ⟨core, hspelled, hcore⟩
    rwa [Text.trim_of_surrounds hcore (isBlank_of_spelledBy hspelled)]

end Network

namespace Intent

variable {i : Intent} {subnetText nextHopText : String}

/-- Two texts spell an intent when the first spells its subnet with any host bits, the second is its
next hop as it is written, and both may have blanks around them. -/
def SpelledBy (i : Intent) (subnetText nextHopText : String) : Prop :=
  (∃ n cs, Network.truncate n = i.subnet ∧ n.SpelledBy cs ∧ Text.Surrounds cs subnetText.toList) ∧
    Text.Surrounds i.nextHop.chars nextHopText.toList

/-- **What is read is what is spelled.** Two texts are read as an intent exactly when they spell
it. -/
theorem parse_eq_ok_iff :
    parse subnetText nextHopText = .ok i ↔ i.SpelledBy subnetText nextHopText := by
  constructor
  · intro h
    simp only [parse] at h
    split at h
    case h_1 => cases h
    case h_2 n hn =>
      split at h
      case h_1 => cases h
      case h_2 x hx =>
        cases h
        obtain ⟨cs, hspelled, hsubnetText⟩ := Network.ofChars?_trim_eq_some_iff.mp hn
        exact ⟨⟨n, cs, rfl, hspelled, hsubnetText⟩, Address.ofChars?_trim_eq_some_iff.mp hx⟩
  · rintro ⟨⟨n, cs, hsubnet, hspelled, hsubnetText⟩, hnextHopText⟩
    have hn : Network.ofChars? (Text.trim subnetText.toList) = some n :=
      Network.ofChars?_trim_eq_some_iff.mpr ⟨cs, hspelled, hsubnetText⟩
    have hx : Address.ofChars? (Text.trim nextHopText.toList) = some i.nextHop :=
      Address.ofChars?_trim_eq_some_iff.mpr hnextHopText
    simp only [parse, hn, hx, of, hsubnet]

end Intent

end RouteKeeper
