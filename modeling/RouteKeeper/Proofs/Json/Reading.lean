import Mathlib.Data.List.DropRight
import Mathlib.Data.List.Forall2
import Mathlib.Data.List.TakeDrop
import RouteKeeper.Json.Reader
import RouteKeeper.Proofs.Json.Grammar
import RouteKeeper.Proofs.Text.Number

/-!
# Reading what the grammar allows

Every text of the grammar is read, whatever stands after it, provided that this does not go on with
a number. A text that spells a string is read as that string, and arrays and objects are read item
by item.

## Implementation notes

A reader leaves the blanks behind a value to the one that called it. So the rest is told up to the
blanks at its front, which every caller passes over next.
-/

namespace RouteKeeper.Json

variable {cs rest : List Char}

/-! ## Blanks -/

theorem isSpace_iff {c : Char} :
    isSpace c = true ↔ c = ' ' ∨ c = '\n' ∨ c = '\t' ∨ c = '\r' := by
  simp [isSpace, or_assoc]

theorem IsBlank.skipSpace_append (h : IsBlank cs) (rest : List Char) :
    skipSpace (cs ++ rest) = skipSpace rest :=
  List.dropWhile_append_of_pos fun c hc => isSpace_iff.mpr (h c hc)

theorem skipSpace_cons {c : Char} (h : isSpace c = false) : skipSpace (c :: rest) = c :: rest :=
  List.dropWhile_cons_of_neg (by simp [h])

/-! ## Numbers -/

/-- What is left does not begin with one of the characters. -/
def BeginsWithout (p : Char → Prop) (rest : List Char) : Prop :=
  ∀ c ∈ rest.head?, ¬p c

/-- What may stand after a value: nothing, or a blank or a mark that no number goes on with. -/
def EndsValue (rest : List Char) : Prop :=
  ∀ c ∈ rest.head?, isSpace c = true ∨ c = ',' ∨ c = ']' ∨ c = '}'

/-- The characters that a number may go on with. -/
def GoesOn (c : Char) : Prop :=
  Text.isDigit c = true ∨ c = '.' ∨ c = 'e' ∨ c = 'E'

theorem EndsValue.beginsWithout (h : EndsValue rest) : BeginsWithout GoesOn rest := by
  intro c hc hgoes
  have hends : c = ' ' ∨ c = '\n' ∨ c = '\t' ∨ c = '\r' ∨ c = ',' ∨ c = ']' ∨ c = '}' := by
    simpa [isSpace_iff, or_assoc] using h c hc
  rcases hends with rfl | rfl | rfl | rfl | rfl | rfl | rfl <;>
    simp [GoesOn, Text.isDigit, Text.digit?] at hgoes

theorem digitRun_append (h : IsDigits cs) (hrest : BeginsWithout (Text.isDigit · = true) rest) :
    digitRun (cs ++ rest) = some (cs, rest) := by
  have hstop : rest.takeWhile Text.isDigit = [] ∧ rest.dropWhile Text.isDigit = rest := by
    cases rest with
    | nil => exact ⟨rfl, rfl⟩
    | cons c rest =>
        have hc : ¬Text.isDigit c = true := hrest c rfl
        exact ⟨List.takeWhile_cons_of_neg hc, List.dropWhile_cons_of_neg hc⟩
  have hspan : (cs ++ rest).span Text.isDigit = (cs, rest) := by
    rw [List.span_eq_takeWhile_dropWhile, List.takeWhile_append_of_pos h.2,
      List.dropWhile_append_of_pos h.2, hstop.1, hstop.2, List.append_nil]
  obtain ⟨c, ds, rfl⟩ := List.exists_cons_of_ne_nil h.1
  simp only [digitRun, hspan]

theorem integerPart_append (h : IsWhole cs)
    (hrest : BeginsWithout (Text.isDigit · = true) rest) :
    integerPart (cs ++ rest) = some (cs, rest) := by
  have hzero : ¬(cs.head? = some '0' ∧ cs.length ≠ 1) := fun hzero => hzero.2 (h.2 hzero.1)
  simp only [integerPart, digitRun_append h.1 hrest]
  exact if_neg hzero

theorem fractionPart_append (h : IsFraction cs)
    (hrest : BeginsWithout (fun c => Text.isDigit c = true ∨ c = '.') rest) :
    fractionPart (cs ++ rest) = some (cs, rest) := by
  rcases h with rfl | ⟨ds, hds, rfl⟩
  · cases rest with
    | nil => rfl
    | cons c rest =>
        have hc : c ≠ '.' := fun hc => hrest c rfl (Or.inr hc)
        simp [fractionPart, hc]
  · have hdigits : digitRun (ds ++ rest) = some (ds, rest) :=
      digitRun_append hds fun c hc hdigit => hrest c hc (Or.inl hdigit)
    simp [fractionPart, hdigits]

theorem exponentPart_append (h : IsExponent cs) (hrest : BeginsWithout GoesOn rest) :
    exponentPart (cs ++ rest) = some (cs, rest) := by
  rcases h with rfl | ⟨mark, sign, ds, hmark, hsign, hds, rfl⟩
  · cases rest with
    | nil => rfl
    | cons c rest =>
        have hc : ¬(c = 'e' ∨ c = 'E') := fun hc => hrest c rfl (Or.inr (Or.inr hc))
        simp [exponentPart, hc]
  · have hdigits : digitRun (ds ++ rest) = some (ds, rest) :=
      digitRun_append hds fun c hc hdigit => hrest c hc (Or.inl hdigit)
    have hsigned : signPart (sign ++ (ds ++ rest)) = (sign, ds ++ rest) := by
      obtain ⟨d, ds, rfl⟩ := List.exists_cons_of_ne_nil hds.1
      have hd : Text.isDigit d = true := hds.2 d List.mem_cons_self
      have hplus : d ≠ '+' := by
        rintro rfl
        cases hd
      have hminus : d ≠ '-' := by
        rintro rfl
        cases hd
      simp only [List.mem_cons, List.not_mem_nil, or_false] at hsign
      rcases hsign with rfl | rfl | rfl
      · simp [signPart, hplus, hminus]
      · rfl
      · rfl
    have hmark : mark = 'e' ∨ mark = 'E' := by simpa using hmark
    simp [exponentPart, hmark, hsigned, hdigits]

/-- A number begins with a digit or a minus sign. -/
theorem IsNumber.head (h : IsNumber cs) :
    ∃ c tail, cs = c :: tail ∧ (c = '-' ∨ Text.isDigit c = true) := by
  obtain ⟨minus, whole, fraction, exponent, hminus, hwhole, -, -, rfl⟩ := h
  obtain ⟨d, ds, rfl⟩ := List.exists_cons_of_ne_nil hwhole.1.1
  simp only [List.mem_cons, List.not_mem_nil, or_false] at hminus
  rcases hminus with rfl | rfl
  · exact ⟨d, _, rfl, Or.inr (hwhole.1.2 d List.mem_cons_self)⟩
  · exact ⟨'-', _, rfl, Or.inl rfl⟩

theorem number_append (h : IsNumber cs) (hrest : EndsValue rest) :
    number (cs ++ rest) = some (cs, rest) := by
  obtain ⟨minus, whole, fraction, exponent, hminus, hwhole, hfraction, hexponent, rfl⟩ := h
  have hexponentRest : BeginsWithout (fun c => Text.isDigit c = true ∨ c = '.')
      (exponent ++ rest) := by
    rcases hexponent with rfl | ⟨mark, sign, ds, hmark, -, -, rfl⟩
    · exact fun c hc hgoes => hrest.beginsWithout c hc (hgoes.imp_right Or.inl)
    · intro c hc hgoes
      have hmark : mark = 'e' ∨ mark = 'E' := by simpa using hmark
      obtain rfl : mark = c := by simpa using hc
      rcases hmark with rfl | rfl <;> simp [Text.isDigit, Text.digit?] at hgoes
  have hfractionRest : BeginsWithout (Text.isDigit · = true) (fraction ++ (exponent ++ rest)) := by
    rcases hfraction with rfl | ⟨ds, -, rfl⟩
    · exact fun c hc hdigit => hexponentRest c hc (Or.inl hdigit)
    · intro c hc hdigit
      obtain rfl : '.' = c := by simpa using hc
      cases hdigit
  have hreadWhole := integerPart_append hwhole hfractionRest
  have hreadFraction := fractionPart_append hfraction hexponentRest
  have hreadExponent := exponentPart_append hexponent hrest.beginsWithout
  simp only [List.mem_cons, List.not_mem_nil, or_false] at hminus
  rcases hminus with rfl | rfl
  · obtain ⟨d, ds, rfl⟩ := List.exists_cons_of_ne_nil hwhole.1.1
    have hd : Text.isDigit d = true := hwhole.1.2 d List.mem_cons_self
    have hsign : d ≠ '-' := by
      rintro rfl
      cases hd
    simp only [List.nil_append, List.cons_append, List.append_assoc] at *
    simp [number, hsign, hreadWhole, hreadFraction, hreadExponent]
  · simp only [List.nil_append, List.cons_append, List.append_assoc] at *
    simp [number, hreadWhole, hreadFraction, hreadExponent]

/-! ## Strings -/

/-- Each hexadecimal digit has its value, in either case. -/
theorem IsHexDigit.hexValue? {n : Nat} {c : Char} (h : IsHexDigit n c) :
    hexValue? c = some n := by
  have hlower : ∀ p ∈ "0123456789abcdef".toList.zipIdx, Json.hexValue? p.1 = some p.2 := by decide
  have hupper : ∀ p ∈ "0123456789ABCDEF".toList.zipIdx, Json.hexValue? p.1 = some p.2 := by decide
  rcases h with h | h
  · exact hlower (c, n) (List.mk_mem_zipIdx_iff_getElem?.mpr h)
  · exact hupper (c, n) (List.mk_mem_zipIdx_iff_getElem?.mpr h)

/-- A code is read from its digits. -/
theorem IsUnit.unit? {n : Nat} (h : IsUnit n cs) (rest : List Char) :
    unit? (cs ++ rest) = some (n, rest) := by
  obtain ⟨a, b, c, d, ha, hb, hc, hd, rfl⟩ := h
  have hsum : 4096 * (n / 4096) + 256 * (n / 256 % 16) + 16 * (n / 16 % 16) + n % 16 = n := by omega
  simp [Json.unit?, ha.hexValue?, hb.hexValue?, hc.hexValue?, hd.hexValue?, hsum]

theorem escaped?_of_mem {letter c : Char} (h : (letter, c) ∈ shortEscapes) :
    escaped? letter = some c ∧ letter ≠ 'u' := by
  have hall : ∀ e ∈ shortEscapes, escaped? e.1 = some e.2 ∧ e.1 ≠ 'u' := by decide
  exact hall (letter, c) h

/-- No character is half of a surrogate pair. -/
theorem pointOf_toNat (c : Char) :
    isLeading c.toNat = false ∧ pointOf c.toNat = .char c := by
  have hvalid : c.toNat < 0xd800 ∨ 0xdfff < c.toNat := by
    rcases c.valid with h | h
    · exact Or.inl h
    · exact Or.inr h.1
  have hleading : isLeading c.toNat = false := by
    simp only [isLeading, Bool.and_eq_false_iff, decide_eq_false_iff_not]
    omega
  have htrailing : isTrailing c.toNat = false := by
    simp only [isTrailing, Bool.and_eq_false_iff, decide_eq_false_iff_not]
    omega
  refine ⟨hleading, ?_⟩
  simp [pointOf, hleading, htrailing, Char.ofNat_toNat]

section

variable {fuel : Nat} {ps : List Point} {after : List Char}
  (hread : stringBody fuel rest = some (ps, after))
include hread

theorem stringBody_plain {c : Char} (h : IsPlain c) :
    stringBody (fuel + 1) (c :: rest) = some (.char c :: ps, after) := by
  obtain ⟨hcode, hquote, hbackslash⟩ := h
  have hcode : ¬c.toNat < 32 := Nat.not_lt.mpr hcode
  simp [stringBody, hbackslash, hcode, hread]

theorem stringBody_short {letter c : Char} (h : (letter, c) ∈ shortEscapes) :
    stringBody (fuel + 1) ('\\' :: letter :: rest) = some (.char c :: ps, after) := by
  obtain ⟨hescape, hletter⟩ := escaped?_of_mem h
  simp [stringBody, hescape, hread]

/-- A code joins one that is spelt right after it if they are the halves of a pair. -/
theorem stringBody_unit {n : Nat} {digits : List Char} (h : IsUnit n digits) :
    stringBody (fuel + 1) ('\\' :: 'u' :: (digits ++ rest)) =
      some (joinUnit n (if isLeading n then trailing? rest else none) ps, after) := by
  simp [stringBody, h.unit?, hread]

end

/-- The halves of a pair are read as its character. -/
theorem stringBody_pair {c : Char} {high low : List Char} (hc : 0x10000 ≤ c.toNat)
    (hhigh : IsUnit (0xd800 + (c.toNat - 0x10000) / 0x400) high)
    (hlow : IsUnit (0xdc00 + (c.toNat - 0x10000) % 0x400) low) {fuel : Nat} {ps : List Point}
    {after : List Char} (hread : stringBody fuel rest = some (ps, after)) :
    stringBody (fuel + 2) ('\\' :: 'u' :: (high ++ '\\' :: 'u' :: (low ++ rest))) =
      some (.char c :: ps, after) := by
  have hlast : c.toNat < 0x110000 := by
    rcases c.valid with h | h
    · exact Nat.lt_trans h (by decide)
    · exact h.2
  generalize hm : 0xd800 + (c.toNat - 0x10000) / 0x400 = m at hhigh
  generalize hn : 0xdc00 + (c.toNat - 0x10000) % 0x400 = n at hlow
  have hleading : isLeading m = true := by
    simp only [isLeading, Bool.and_eq_true, decide_eq_true_eq]
    omega
  have hnotLeading : isLeading n = false := by
    simp only [isLeading, Bool.and_eq_false_iff, decide_eq_false_iff_not]
    omega
  have htrailing : isTrailing n = true := by
    simp only [isTrailing, Bool.and_eq_true, decide_eq_true_eq]
    omega
  have hsum : 0x10000 + (m - 0xd800) * 0x400 + (n - 0xdc00) = c.toNat := by omega
  -- on its own the trailing half would stay a surrogate
  have hsecond : stringBody (fuel + 1) ('\\' :: 'u' :: (low ++ rest)) =
      some (.surrogate n :: ps, after) := by
    rw [stringBody_unit hread hlow, hnotLeading]
    simp [joinUnit, pointOf, hnotLeading, htrailing]
  have hfound : trailing? ('\\' :: 'u' :: (low ++ rest)) = some n := by
    simp [trailing?, hlow.unit?, htrailing]
  rw [stringBody_unit hsecond hhigh, if_pos hleading, hfound]
  simp only [joinUnit, hsum, Char.ofNat_toNat]

/-- A text is read as points with a property, up to the quote after it. -/
def ReadsBody (cs : List Char) (q : List Point → Prop) : Prop :=
  ∀ fuel rest, cs.length < fuel →
    ∃ ps, q ps ∧ stringBody fuel (cs ++ '"' :: rest) = some (ps, rest)

/-- What spells characters is read as these characters. -/
theorem SpellsChars.readsBody {s : List Char} (h : SpellsChars s cs) :
    ReadsBody cs (· = s.map .char) := by
  suffices hread : ∀ fuel rest, cs.length < fuel →
      stringBody fuel (cs ++ '"' :: rest) = some (s.map .char, rest) from
    fun fuel rest hfuel => ⟨_, rfl, hread fuel rest hfuel⟩
  intro fuel rest hfuel
  induction h generalizing fuel with
  | nil =>
      obtain ⟨fuel, rfl⟩ := Nat.exists_eq_add_one.mpr hfuel
      rfl
  | @cons c s front body hchar hbody ih =>
      obtain ⟨fuel, rfl⟩ := Nat.exists_eq_add_one.mpr (Nat.zero_lt_of_lt hfuel)
      rw [List.length_append] at hfuel
      rw [List.append_assoc, List.map_cons]
      cases hchar with
      | plain h =>
          have hfuel : body.length < fuel := by simpa [Nat.add_comm] using hfuel
          exact stringBody_plain (ih _ hfuel) h
      | short h =>
          simp only [List.length_cons] at hfuel
          exact stringBody_short (ih _ (by omega)) h
      | unit h =>
          simp only [List.length_cons] at hfuel
          obtain ⟨hleading, hpoint⟩ := pointOf_toNat c
          simp only [List.cons_append]
          rw [stringBody_unit (ih _ (by omega)) h, hleading]
          simp [joinUnit, hpoint]
      | @pair high low hc hhigh hlow =>
          simp only [List.length_cons, List.length_append] at hfuel
          obtain ⟨more, rfl⟩ := Nat.exists_eq_add_one.mpr (show 0 < fuel by omega)
          simp only [List.cons_append, List.append_assoc]
          exact stringBody_pair hc hhigh hlow (ih _ (by omega))

/-- What may stand between quotes is read. -/
theorem IsBody.readsBody (h : IsBody cs) : ReadsBody cs fun _ => True := by
  suffices hread : ∀ fuel rest, cs.length < fuel →
      ∃ ps, stringBody fuel (cs ++ '"' :: rest) = some (ps, rest) by
    intro fuel rest hfuel
    obtain ⟨ps, hread⟩ := hread fuel rest hfuel
    exact ⟨ps, trivial, hread⟩
  intro fuel rest hfuel
  induction h generalizing fuel with
  | nil =>
      obtain ⟨fuel, rfl⟩ := Nat.exists_eq_add_one.mpr hfuel
      exact ⟨[], rfl⟩
  | plain h _ ih =>
      obtain ⟨fuel, rfl⟩ := Nat.exists_eq_add_one.mpr (Nat.zero_lt_of_lt hfuel)
      obtain ⟨ps, hread⟩ := ih _ (Nat.lt_of_succ_lt_succ hfuel)
      exact ⟨_, stringBody_plain hread h⟩
  | short h _ ih =>
      obtain ⟨fuel, rfl⟩ := Nat.exists_eq_add_one.mpr (Nat.zero_lt_of_lt hfuel)
      obtain ⟨ps, hread⟩ := ih _ (Nat.lt_of_succ_lt (Nat.lt_of_succ_lt_succ hfuel))
      exact ⟨_, stringBody_short hread h⟩
  | @unit n digits body h _ ih =>
      obtain ⟨fuel, rfl⟩ := Nat.exists_eq_add_one.mpr (Nat.zero_lt_of_lt hfuel)
      simp only [List.length_cons, List.length_append] at hfuel
      obtain ⟨ps, hread⟩ := ih fuel (by omega)
      simp only [List.cons_append, List.append_assoc]
      exact ⟨_, stringBody_unit hread h⟩

/-- A string is read between its quotes. -/
theorem ReadsBody.string {body : List Char} {q : List Point → Prop} (h : ReadsBody body q)
    (rest : List Char) : ∃ ps, q ps ∧ string ('"' :: (body ++ '"' :: rest)) = some (ps, rest) := by
  refine h _ rest ?_
  rw [List.length_append, List.length_cons]
  omega

/-! ## Values -/

/-- A text is read as a value with a property, whatever ends it. -/
def ReadsValue (cs : List Char) (p : Value → Prop) : Prop :=
  ∀ fuel rest, cs.length < fuel → EndsValue rest →
    ∃ v after, p v ∧ value fuel (cs ++ rest) = some (v, after) ∧ skipSpace after = skipSpace rest

/-- A text is read as the name of a member with a property, whatever stands after the colon. -/
def ReadsName (cs : List Char) (q : List Point → Prop) : Prop :=
  ∀ rest, ∃ ps, q ps ∧ memberName (cs ++ ':' :: rest) = some (ps, rest)

variable {p : Value → Prop} {q : List Point → Prop}

theorem IsBlank.value_append (h : IsBlank cs) (fuel : Nat) (rest : List Char) :
    value fuel (cs ++ rest) = value fuel rest := by
  cases fuel with
  | zero => rfl
  | succ fuel => rw [value, value, h.skipSpace_append]

theorem IsBlank.endsValue_append (h : IsBlank cs) (hrest : EndsValue rest) :
    EndsValue (cs ++ rest) := by
  cases cs with
  | nil => exact hrest
  | cons c cs =>
      intro d hd
      obtain rfl : c = d := by simpa using hd
      exact Or.inl (isSpace_iff.mpr (h c List.mem_cons_self))

theorem ReadsValue.spaced {front back : List Char} (h : ReadsValue cs p) (hfront : IsBlank front)
    (hback : IsBlank back) : ReadsValue (front ++ (cs ++ back)) p := by
  intro fuel rest hfuel hrest
  simp only [List.length_append] at hfuel
  obtain ⟨v, after, hv, hread, hafter⟩ :=
    h fuel (back ++ rest) (by omega) (hback.endsValue_append hrest)
  refine ⟨v, after, hv, ?_, hafter.trans (hback.skipSpace_append rest)⟩
  rw [List.append_assoc, List.append_assoc, hfront.value_append, hread]

/-- What begins like no other value is read as a number. -/
theorem value_number {c : Char} {tail spelling after : List Char} {fuel : Nat}
    (hspace : isSpace c = false) (hc : c ∉ ['n', 't', 'f', '"', '[', '{'])
    (hread : number (c :: tail) = some (spelling, after)) :
    value (fuel + 1) (c :: tail) = some (.number spelling, after) := by
  rw [value, skipSpace_cons hspace]
  split
  case h_7 => rw [hread, Option.map_some]
  all_goals
    rename_i heq
    cases heq
    exact absurd (by decide) hc

theorem IsNumber.readsValue (h : IsNumber cs) : ReadsValue cs fun _ => True := by
  intro fuel rest hfuel hrest
  obtain ⟨fuel, rfl⟩ := Nat.exists_eq_add_one.mpr (Nat.zero_lt_of_lt hfuel)
  have hread := number_append h hrest
  obtain ⟨c, tail, rfl, hc⟩ := h.head
  have hne (d : Char) (hd : Text.isDigit d = false) (hminus : d ≠ '-') : c ≠ d := by
    rintro rfl
    rcases hc with hc | hc
    · exact hminus hc
    · rw [hd] at hc
      cases hc
  have hspace : isSpace c = false := by
    simp [isSpace, hne ' ' rfl (by decide), hne '\n' rfl (by decide), hne '\t' rfl (by decide),
      hne '\r' rfl (by decide)]
  have hother : c ∉ ['n', 't', 'f', '"', '[', '{'] := by
    simp [hne 'n' rfl (by decide), hne 't' rfl (by decide), hne 'f' rfl (by decide),
      hne '"' rfl (by decide), hne '[' rfl (by decide), hne '{' rfl (by decide)]
  exact ⟨_, rest, trivial, value_number hspace hother hread, rfl⟩

theorem skipSpace_skipSpace (cs : List Char) : skipSpace (skipSpace cs) = skipSpace cs :=
  List.dropWhile_idempotent isSpace cs

theorem value_skipSpace (fuel : Nat) (cs : List Char) :
    value fuel (skipSpace cs) = value fuel cs := by
  cases fuel with
  | zero => rfl
  | succ fuel => rw [value, value, skipSpace_skipSpace]

/-- Between brackets stand items. -/
theorem value_bracket {fuel : Nat} {vs : List Value} {after : List Char}
    (h : items fuel cs = some (vs, after)) :
    value (fuel + 1) ('[' :: cs) = some (.array vs, after) := by
  have hskip : items fuel (skipSpace cs) = some (vs, after) := by
    cases fuel with
    | zero => exact h
    | succ fuel =>
        rw [items] at h ⊢
        rwa [value_skipSpace]
  rw [value, skipSpace_cons (by decide)]
  split
  case h_5 heq =>
    cases heq
    split
    · next hclose =>
        -- no item begins with a bracket that closes
        rw [hclose] at hskip
        rcases fuel with _ | _ | fuel <;> cases hskip
    · rw [hskip, Option.map_some]
  case h_7 hbracket _ => exact absurd rfl (hbracket cs)
  case h_1 heq | h_2 heq | h_3 heq | h_4 heq | h_6 heq => simp at heq

/-- Items are read one after another. -/
theorem items_append {texts : List (List Char)} {ps : List (Value → Prop)}
    (h : List.Forall₂ ReadsValue texts ps) (hne : texts ≠ []) {fuel : Nat}
    (hfuel : ([','].intercalate texts).length + 1 < fuel) (rest : List Char) :
    ∃ vs, List.Forall₂ (fun p v => p v) ps vs ∧
      items fuel ([','].intercalate texts ++ ']' :: rest) = some (vs, rest) := by
  induction h generalizing fuel with
  | nil => exact absurd rfl hne
  | @cons text p texts ps htext htexts ih =>
      obtain ⟨fuel, rfl⟩ := Nat.exists_eq_add_one.mpr (Nat.zero_lt_of_lt hfuel)
      cases texts with
      | nil =>
          cases htexts
          rw [List.intercalate_singleton] at hfuel ⊢
          obtain ⟨v, after, hv, hread, hafter⟩ := htext fuel (']' :: rest) (by omega) (by
            simp [EndsValue])
          refine ⟨[v], .cons hv .nil, ?_⟩
          rw [skipSpace_cons (by decide)] at hafter
          simp [items, hread, hafter]
      | cons next others =>
          rw [List.intercalate_cons_of_ne_nil (by simp)] at hfuel ⊢
          simp only [List.length_append, List.length_singleton] at hfuel
          obtain ⟨vs, hvs, hreadRest⟩ :=
            ih (List.cons_ne_nil _ _) (show _ + 1 < fuel by omega)
          obtain ⟨v, after, hv, hread, hafter⟩ :=
            htext fuel (',' :: ([','].intercalate (next :: others) ++ ']' :: rest)) (by omega) (by
              simp [EndsValue])
          refine ⟨v :: vs, .cons hv hvs, ?_⟩
          rw [skipSpace_cons (by decide)] at hafter
          simp only [List.append_assoc, List.singleton_append]
          simp [items, hread, hafter, hreadRest]

theorem readsValue_array {texts : List (List Char)} {ps : List (Value → Prop)}
    (h : List.Forall₂ ReadsValue texts ps) (hne : texts ≠ []) :
    ReadsValue (arrayText texts) fun v =>
      ∃ vs, v = .array vs ∧ List.Forall₂ (fun p v => p v) ps vs := by
  intro fuel rest hfuel hrest
  obtain ⟨fuel, rfl⟩ := Nat.exists_eq_add_one.mpr (Nat.zero_lt_of_lt hfuel)
  simp only [arrayText, List.length_cons, List.length_append, List.length_nil] at hfuel
  obtain ⟨vs, hvs, hread⟩ := items_append h hne (show _ + 1 < fuel by omega) rest
  refine ⟨_, rest, ⟨vs, rfl, hvs⟩, ?_, rfl⟩
  simp only [arrayText, List.cons_append, List.append_assoc, List.nil_append]
  exact value_bracket hread

/-- Between braces stand members. -/
theorem value_brace {fuel : Nat} {ms : List (List Point × Value)} {after : List Char}
    (h : members fuel cs = some (ms, after)) :
    value (fuel + 1) ('{' :: cs) = some (.object ms, after) := by
  have hskip : members fuel (skipSpace cs) = some (ms, after) := by
    cases fuel with
    | zero => exact h
    | succ fuel =>
        rw [members, memberName] at h ⊢
        rwa [skipSpace_skipSpace]
  rw [value, skipSpace_cons (by decide)]
  split
  case h_6 heq =>
    cases heq
    split
    · next hclose =>
        -- no name begins with a brace
        rw [hclose] at hskip
        rcases fuel with _ | fuel <;> cases hskip
    · rw [hskip, Option.map_some]
  case h_7 hbrace => exact absurd rfl (hbrace cs)
  case h_1 heq | h_2 heq | h_3 heq | h_4 heq | h_5 heq => simp at heq

/-- The text of a member is read as a name and a value with properties. -/
def ReadsMember (m : List Char × List Char) (r : (List Point → Prop) × (Value → Prop)) : Prop :=
  ReadsName m.1 r.1 ∧ ReadsValue m.2 r.2

/-- What was read of a member has the properties. -/
def IsMember (r : (List Point → Prop) × (Value → Prop)) (m : List Point × Value) : Prop :=
  r.1 m.1 ∧ r.2 m.2

/-- Members are read one after another. -/
theorem members_append {texts : List (List Char × List Char)}
    {rs : List ((List Point → Prop) × (Value → Prop))} (h : List.Forall₂ ReadsMember texts rs)
    (hne : texts ≠ []) {fuel : Nat}
    (hfuel : ([','].intercalate (texts.map fun m => m.1 ++ ':' :: m.2)).length + 1 < fuel)
    (rest : List Char) :
    ∃ ms, List.Forall₂ IsMember rs ms ∧
      members fuel ([','].intercalate (texts.map fun m => m.1 ++ ':' :: m.2) ++ '}' :: rest) =
        some (ms, rest) := by
  induction h generalizing fuel with
  | nil => exact absurd rfl hne
  | @cons text r texts rs htext htexts ih =>
      obtain ⟨fuel, rfl⟩ := Nat.exists_eq_add_one.mpr (Nat.zero_lt_of_lt hfuel)
      obtain ⟨hname, hvalue⟩ := htext
      cases texts with
      | nil =>
          cases htexts
          simp only [List.map_cons, List.map_nil, List.intercalate_singleton, List.length_append,
            List.length_cons] at hfuel ⊢
          obtain ⟨ps, hps, hreadName⟩ := hname (text.2 ++ '}' :: rest)
          obtain ⟨v, after, hv, hread, hafter⟩ := hvalue fuel ('}' :: rest) (by omega) (by
            simp [EndsValue])
          refine ⟨[(ps, v)], .cons ⟨hps, hv⟩ .nil, ?_⟩
          rw [skipSpace_cons (by decide)] at hafter
          simp only [List.append_assoc, List.cons_append]
          simp [members, hreadName, hread, hafter]
      | cons next others =>
          rw [List.map_cons, List.intercalate_cons_of_ne_nil (by simp)] at hfuel ⊢
          simp only [List.length_append, List.length_cons, List.length_nil] at hfuel
          obtain ⟨ms, hms, hreadRest⟩ :=
            ih (List.cons_ne_nil _ _) (show _ + 1 < fuel by omega)
          generalize [','].intercalate ((next :: others).map fun m => m.1 ++ ':' :: m.2) = tail at *
          obtain ⟨ps, hps, hreadName⟩ := hname (text.2 ++ ',' :: (tail ++ '}' :: rest))
          obtain ⟨v, after, hv, hread, hafter⟩ :=
            hvalue fuel (',' :: (tail ++ '}' :: rest)) (by omega) (by simp [EndsValue])
          refine ⟨(ps, v) :: ms, .cons ⟨hps, hv⟩ hms, ?_⟩
          rw [skipSpace_cons (by decide)] at hafter
          simp only [List.append_assoc, List.cons_append, List.nil_append]
          simp [members, hreadName, hread, hafter, hreadRest]

theorem readsValue_object {texts : List (List Char × List Char)}
    {rs : List ((List Point → Prop) × (Value → Prop))} (h : List.Forall₂ ReadsMember texts rs)
    (hne : texts ≠ []) :
    ReadsValue (objectText texts) fun v =>
      ∃ ms, v = .object ms ∧ List.Forall₂ IsMember rs ms := by
  intro fuel rest hfuel hrest
  obtain ⟨fuel, rfl⟩ := Nat.exists_eq_add_one.mpr (Nat.zero_lt_of_lt hfuel)
  simp only [objectText, List.length_cons, List.length_append, List.length_nil] at hfuel
  obtain ⟨ms, hms, hread⟩ := members_append h hne (show _ + 1 < fuel by omega) rest
  refine ⟨_, rest, ⟨ms, rfl, hms⟩, ?_, rfl⟩
  simp only [objectText, List.cons_append, List.append_assoc, List.nil_append]
  exact value_brace hread

/-- A string between quotes is read as the name of a member. -/
theorem IsQuoted.readsName {body : List Char} (h : IsQuoted body cs) (hbody : ReadsBody body q) :
    ReadsName cs q := by
  obtain ⟨front, back, hfront, hback, rfl⟩ := h
  intro rest
  obtain ⟨ps, hps, hread⟩ := hbody.string (back ++ ':' :: rest)
  refine ⟨ps, hps, ?_⟩
  have hskip : skipSpace (front ++ '"' :: (body ++ '"' :: back) ++ ':' :: rest) =
      '"' :: (body ++ '"' :: (back ++ ':' :: rest)) := by
    simp only [List.append_assoc, List.cons_append]
    rw [hfront.skipSpace_append, skipSpace_cons (by decide)]
  have hcolon : skipSpace (back ++ ':' :: rest) = ':' :: rest := by
    rw [hback.skipSpace_append, skipSpace_cons (by decide)]
  rw [memberName, hskip, hread]
  simp [hcolon]

/-- A string between quotes is read as a value. -/
theorem IsQuoted.readsValue {body : List Char} (h : IsQuoted body cs) (hbody : ReadsBody body q) :
    ReadsValue cs fun v => ∃ ps, v = .string ps ∧ q ps := by
  obtain ⟨front, back, hfront, hback, rfl⟩ := h
  have hbare : ReadsValue ('"' :: (body ++ ['"'])) fun v => ∃ ps, v = .string ps ∧ q ps := by
    intro fuel rest hfuel _
    obtain ⟨fuel, rfl⟩ := Nat.exists_eq_add_one.mpr (Nat.zero_lt_of_lt hfuel)
    obtain ⟨ps, hps, hread⟩ := hbody.string rest
    refine ⟨.string ps, rest, ⟨ps, rfl, hps⟩, ?_, rfl⟩
    simp only [List.cons_append, List.append_assoc, List.nil_append]
    rw [value, skipSpace_cons (by decide)]
    exact congrArg (Option.map fun read => (Value.string read.1, read.2)) hread
  simpa using hbare.spaced hfront hback

theorem ReadsValue.mono {p' : Value → Prop} (h : ReadsValue cs p) (hp : ∀ v, p v → p' v) :
    ReadsValue cs p' := by
  intro fuel rest hfuel hrest
  obtain ⟨v, after, hv, hread⟩ := h fuel rest hfuel hrest
  exact ⟨v, after, hp v hv, hread⟩

/-- A text that is read with any fuel and whatever stands after it. -/
theorem readsValue_of_value (v : Value)
    (h : ∀ fuel rest, value (fuel + 1) (cs ++ rest) = some (v, rest)) :
    ReadsValue cs fun _ => True := by
  intro fuel rest hfuel _
  obtain ⟨fuel, rfl⟩ := Nat.exists_eq_add_one.mpr (Nat.zero_lt_of_lt hfuel)
  exact ⟨v, rest, trivial, h fuel rest, rfl⟩

/-- Every value of the grammar is read. -/
theorem IsValue.readsValue (h : IsValue cs) : ReadsValue cs fun _ => True := by
  induction h with
  | word h =>
      simp only [List.mem_cons, List.not_mem_nil, or_false] at h
      rcases h with rfl | rfl | rfl
      · exact readsValue_of_value .null fun _ _ => rfl
      · exact readsValue_of_value (.bool Bool.true) fun _ _ => rfl
      · exact readsValue_of_value (.bool Bool.false) fun _ _ => rfl
  | number h => exact h.readsValue
  | @string body h =>
      have hquoted : IsQuoted body ('"' :: (body ++ ['"'])) := ⟨[], [], nofun, nofun, rfl⟩
      exact (hquoted.readsValue h.readsBody).mono fun _ _ => trivial
  | @emptyArray inside h =>
      refine readsValue_of_value (.array []) fun fuel rest => ?_
      have hskip : skipSpace (inside ++ (']' :: rest)) = ']' :: rest := by
        rw [h.skipSpace_append, skipSpace_cons (by decide)]
      simp only [List.cons_append, List.append_assoc, List.nil_append]
      rw [value, skipSpace_cons (by decide)]
      simp [hskip]
  | @array items hne _ ih =>
      have hitems : List.Forall₂ ReadsValue items (items.map fun _ _ => True) :=
        List.forall₂_map_right_iff.mpr (List.forall₂_same.mpr ih)
      exact (readsValue_array hitems hne).mono fun _ _ => trivial
  | @emptyObject inside h =>
      refine readsValue_of_value (.object []) fun fuel rest => ?_
      have hskip : skipSpace (inside ++ ('}' :: rest)) = '}' :: rest := by
        rw [h.skipSpace_append, skipSpace_cons (by decide)]
      simp only [List.cons_append, List.append_assoc, List.nil_append]
      rw [value, skipSpace_cons (by decide)]
      simp [hskip]
  | @object members hne hnames _ ih =>
      have hmembers : List.Forall₂ ReadsMember members
          (members.map fun _ => (fun _ => True, fun _ => True)) := by
        refine List.forall₂_map_right_iff.mpr (List.forall₂_same.mpr fun m hm => ?_)
        obtain ⟨body, hbody, hquoted⟩ := hnames m hm
        exact ⟨hquoted.readsName hbody.readsBody, ih m hm⟩
      exact (readsValue_object hmembers hne).mono fun _ _ => trivial
  | spaced hfront hback _ ih => exact ih.spaced hfront hback

/-- A text that spells a string is read as the string. -/
theorem Spells.readsValue {s : String} (h : Spells s cs) :
    ReadsValue cs (· = Value.ofString s) := by
  obtain ⟨body, hbody, hquoted⟩ := h
  refine (hquoted.readsValue hbody.readsBody).mono ?_
  rintro _ ⟨_, rfl, rfl⟩
  rfl

theorem Spells.readsName {s : String} (h : Spells s cs) : ReadsName cs (· = points s) := by
  obtain ⟨body, hbody, hquoted⟩ := h
  exact hquoted.readsName hbody.readsBody

/-- What is read with nothing after it is the whole text. -/
theorem ReadsValue.parse {s : String} (h : ReadsValue s.toList p) :
    ∃ v, p v ∧ parse s = some v := by
  obtain ⟨v, after, hv, hread, hafter⟩ := h (s.toList.length + 1) [] (Nat.lt_succ_self _) nofun
  rw [List.append_nil] at hread
  have hempty : skipSpace after = [] := hafter
  refine ⟨v, hv, ?_⟩
  rw [Json.parse, hread]
  simp [hempty]

end RouteKeeper.Json
