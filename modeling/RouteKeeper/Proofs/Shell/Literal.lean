import RouteKeeper.Shell.Quote
import RouteKeeper.Shell.Script

/-!
# Literal words

A literal word is written without anything that the shell expands: runs of characters that mean
nothing to it, and quoted texts. The reader makes of a quoted text one piece between double quotes,
in which each special character stands after its backslash. Only newlines are lost there, since
the shell passes over a backslash and a newline.

## Implementation notes

A reader passes over joined lines before it looks at a character, so newlines at the front of a
quoted text cost it no fuel. Fuel that exceeds the length of what is read is enough.
-/

namespace RouteKeeper.Shell

/-- The characters that mean nothing to the shell, wherever they stand in a word. -/
def isInert (c : Char) : Bool :=
  c.isAlphanum || "%+,-./:=@_".toList.contains c

/-- An inert character is not one that means something. -/
theorem ne_of_isInert {c d : Char} (hc : isInert c = true) (hd : isInert d = false) : c ≠ d := by
  rintro rfl
  exact Bool.noConfusion (hc.symm.trans hd)

/-- The characters of a text that come through quotes: all but newlines. -/
def unbroken (s : List Char) : List Char :=
  s.filter (· != '\n')

/-- The pieces that a quoted text is read as. -/
def quotedPieces (s : List Char) : Word :=
  (unbroken s).map fun c => if isSpecial c then .escaped c else .plain c

/-- A piece that is one character. -/
def Piece.IsCharacter (piece : Piece) : Prop :=
  ∃ c, piece = .plain c ∨ piece = .escaped c

/-- Characters, bare or between double quotes. There is nothing to expand in them. -/
def Piece.IsCharacters (piece : Piece) : Prop :=
  piece.IsCharacter ∨ ∃ pieces, piece = .double pieces ∧ ∀ p ∈ pieces, p.IsCharacter

/-- A quoted text is nothing but characters. -/
theorem isCharacter_of_mem_quotedPieces {s : List Char} {piece : Piece}
    (h : piece ∈ quotedPieces s) : piece.IsCharacter := by
  obtain ⟨c, -, rfl⟩ := List.mem_map.mp h
  by_cases hspecial : isSpecial c = true
  · exact ⟨c, Or.inr (if_pos hspecial)⟩
  · exact ⟨c, Or.inl (if_neg hspecial)⟩

/-- A part of a literal word. -/
inductive Part where
  /-- Characters that mean nothing, as they stand. -/
  | bare (s : List Char) (inert : s.all isInert = true)
  /-- A text in its quoted form. -/
  | quoted (s : List Char)

namespace Part

/-- A part as it is written. -/
def spelling : Part → List Char
  | bare s _ => s
  | quoted s => quoteChars s

/-- The pieces that a part is read as. -/
def pieces : Part → Word
  | bare s _ => s.map .plain
  | quoted s => [.double (quotedPieces s)]

/-- The text that a part stands for. -/
def text : Part → List Char
  | bare s _ => s
  | quoted s => unbroken s

end Part

/-- A literal word: its parts in order. -/
abbrev Literal := List Part

namespace Literal

/-- A literal word as it is written. -/
def spelling (w : Literal) : List Char :=
  w.flatMap Part.spelling

/-- The pieces that a literal word is read as. -/
def pieces (w : Literal) : Word :=
  w.flatMap Part.pieces

/-- The text that a literal word stands for. -/
def text (w : Literal) : List Char :=
  w.flatMap Part.text

/-- So is a literal word. -/
theorem isCharacters_of_mem_pieces {w : Literal} {piece : Piece} (h : piece ∈ w.pieces) :
    piece.IsCharacters := by
  obtain ⟨p, -, h⟩ := List.mem_flatMap.mp h
  cases p with
  | bare s inert =>
      obtain ⟨c, -, rfl⟩ := List.mem_map.mp h
      exact Or.inl ⟨c, Or.inl rfl⟩
  | quoted s =>
      obtain rfl := List.mem_singleton.mp h
      exact Or.inr ⟨_, rfl, fun _ => isCharacter_of_mem_quotedPieces⟩

/-- The first character of a literal word is a double quote or means nothing. -/
theorem spelling_cases (w : Literal) (h : w.spelling ≠ []) :
    ∃ c cs, w.spelling = c :: cs ∧ (c = '"' ∨ isInert c = true) := by
  induction w with
  | nil => exact absurd rfl h
  | cons p w ih =>
      cases p with
      | quoted s => exact ⟨_, _, rfl, Or.inl rfl⟩
      | bare s inert =>
          cases s with
          | nil => exact ih h
          | cons c cs => exact ⟨c, _, rfl, Or.inr (List.all_eq_true.mp inert c List.mem_cons_self)⟩

end Literal

/-! ## Joined lines -/

@[simp] theorem skipJoins_join (rest : List Char) :
    skipJoins ('\\' :: '\n' :: rest) = skipJoins rest := rfl

theorem skipJoins_cons_of_ne {c : Char} (h : c ≠ '\\') (rest : List Char) :
    skipJoins (c :: rest) = c :: rest := by
  rw [skipJoins]
  rintro rest' hjoin
  exact h (List.cons.inj hjoin).1

theorem skipJoins_backslash {c : Char} (h : c ≠ '\n') (rest : List Char) :
    skipJoins ('\\' :: c :: rest) = '\\' :: c :: rest := by
  rw [skipJoins]
  rintro rest' hjoin
  exact h (List.cons.inj (List.cons.inj hjoin).2).1

/-! ## Between double quotes -/

section

variable (scope : Scope) (fuel : Nat) (rest : List Char)

/-- A newline after a backslash is lost. -/
theorem readDouble_join :
    readDouble scope {} (fuel + 1) ('\\' :: '\n' :: rest) =
      readDouble scope {} (fuel + 1) rest := by
  rw [readDouble, readDouble, skipJoins_join]

/-- A special character after a backslash stands for itself. -/
theorem readDouble_escaped {c : Char} (hspecial : isSpecial c = true) (hline : c ≠ '\n') :
    readDouble scope {} (fuel + 1) ('\\' :: c :: rest) =
      before (.escaped c) (readDouble scope {} fuel rest) := by
  have hpieces : escapedInDouble {} c = [.escaped c] := by
    rw [escapedInDouble, if_pos]
    simp only [isSpecial, Bool.or_eq_true, beq_iff_eq] at hspecial
    rcases hspecial with (((rfl | rfl) | rfl) | rfl) | rfl
    · rfl
    · rfl
    · rfl
    · rfl
    · exact absurd rfl hline
  rw [readDouble, skipJoins_backslash hline]
  simp only [hpieces]
  rfl

/-- Any other character stands for itself. -/
theorem readDouble_plain {c : Char} (hspecial : isSpecial c = false) :
    readDouble scope {} (fuel + 1) (c :: rest) =
      before (.plain c) (readDouble scope {} fuel rest) := by
  simp only [isSpecial, Bool.or_eq_false_iff, beq_eq_false_iff_ne] at hspecial
  obtain ⟨⟨⟨⟨hdollar, hbackquote⟩, hquote⟩, hbackslash⟩, -⟩ := hspecial
  rw [readDouble, skipJoins_cons_of_ne hbackslash]
  split
  all_goals simp_all

/-- A quoted text is read up to its closing quote. -/
theorem readDouble_escape (s : List Char) (hfuel : (escape s).length < fuel) :
    readDouble scope {} fuel (escape s ++ '"' :: rest) = .ok (quotedPieces s, rest) := by
  -- A newline takes two characters and no fuel, any other character at most as much as it has.
  induction s generalizing fuel with
  | nil =>
      obtain ⟨fuel, rfl⟩ := Nat.exists_eq_add_of_lt hfuel
      rfl
  | cons c s ih =>
      obtain ⟨fuel, rfl⟩ := Nat.exists_eq_add_one_of_ne_zero (Nat.ne_zero_of_lt hfuel)
      by_cases hline : c = '\n'
      · subst hline
        have hbound : (escape s).length < fuel + 1 := by
          simp [escape, isSpecial] at hfuel
          omega
        exact (readDouble_join scope fuel _).trans (ih _ hbound)
      · have hpieces : quotedPieces (c :: s) =
            (if isSpecial c then .escaped c else .plain c) :: quotedPieces s := by
          simp [quotedPieces, unbroken, hline]
        by_cases hspecial : isSpecial c = true
        · simp only [escape, if_pos hspecial, List.length_cons] at hfuel ⊢
          rw [hpieces, if_pos hspecial, List.cons_append, List.cons_append,
            readDouble_escaped scope fuel _ hspecial hline, ih fuel (by omega)]
          rfl
        · simp only [escape, if_neg hspecial, List.length_cons] at hfuel ⊢
          rw [hpieces, if_neg hspecial, List.cons_append,
            readDouble_plain scope fuel _ (Bool.eq_false_iff.mpr hspecial), ih fuel (by omega)]
          rfl

/-! ## Words -/

/-- An inert character ends no word. -/
theorem endsWord_of_isInert {c : Char} (hc : isInert c = true) : endsWord c = false := by
  rw [Bool.eq_false_iff]
  intro hends
  have hmem : c ∈ [' ', '\t', '\n', ';', '&', '|', '<', '>', '(', ')'] := by
    simpa [endsWord, isBlank, or_assoc] using hends
  have hnone : [' ', '\t', '\n', ';', '&', '|', '<', '>', '(', ')'].all (!isInert ·) = true := by
    decide
  have hinert : (!isInert c) = true := List.all_eq_true.mp hnone c hmem
  rw [hc] at hinert
  cases hinert

/-- An inert character is a piece of a word. -/
theorem readWord_inert {c : Char} (hc : isInert c = true) :
    readWord scope (fuel + 1) (c :: rest) = before (.plain c) (readWord scope fuel rest) := by
  have hne {d : Char} (hd : isInert d = false) : c ≠ d := ne_of_isInert hc hd
  rw [readWord, skipJoins_cons_of_ne (hne rfl)]
  split
  case h_1 h => cases h
  case h_2 h => exact absurd (List.cons.inj h).1 (hne rfl)
  case h_3 h => exact absurd (List.cons.inj h).1 (hne rfl)
  case h_4 h => exact absurd (List.cons.inj h).1 (hne rfl)
  case h_5 h => exact absurd (List.cons.inj h).1 (hne rfl)
  case h_6 h => exact absurd (List.cons.inj h).1 (hne rfl)
  case h_7 h =>
    obtain ⟨rfl, rfl⟩ := List.cons.inj h
    rw [if_neg (Bool.eq_false_iff.mp (endsWord_of_isInert hc))]

/-- A quoted text is one piece of a word. -/
theorem readWord_quote (s : List Char) (hfuel : (escape s).length < fuel) :
    readWord scope (fuel + 1) (quoteChars s ++ rest) =
      before (.double (quotedPieces s)) (readWord scope fuel rest) := by
  have hquote : quoteChars s ++ rest = '"' :: (escape s ++ '"' :: rest) := by
    simp [quoteChars]
  rw [hquote, readWord, skipJoins_cons_of_ne (by decide)]
  simp only [readDouble_escape scope fuel rest s hfuel]
  rfl

end

/-- A word ends at the front of a text: at its end, or before a character that ends words. -/
def EndsAt (rest : List Char) : Prop :=
  ∀ c ∈ rest.head?, endsWord c = true

/-- A character that ends words joins no lines. -/
theorem skipJoins_of_endsAt {rest : List Char} (hrest : EndsAt rest) : skipJoins rest = rest := by
  cases rest with
  | nil => rfl
  | cons c rest =>
      apply skipJoins_cons_of_ne
      rintro rfl
      exact absurd (hrest _ rfl) (by decide)

theorem readWord_of_endsAt (scope : Scope) (fuel : Nat) {rest : List Char} (hrest : EndsAt rest) :
    readWord scope (fuel + 1) rest = .ok ([], rest) := by
  rw [readWord, skipJoins_of_endsAt hrest]
  cases rest with
  | nil => rfl
  | cons c rest =>
      have hends : endsWord c = true := hrest c rfl
      have hne {d : Char} (hd : endsWord d = false) : c ≠ d := by
        rintro rfl
        exact Bool.noConfusion (hends.symm.trans hd)
      split
      case h_1 h => cases h
      case h_2 h => exact absurd (List.cons.inj h).1 (hne (by decide))
      case h_3 h => exact absurd (List.cons.inj h).1 (hne (by decide))
      case h_4 h => exact absurd (List.cons.inj h).1 (hne (by decide))
      case h_5 h => exact absurd (List.cons.inj h).1 (hne (by decide))
      case h_6 h => exact absurd (List.cons.inj h).1 (hne (by decide))
      case h_7 h =>
        obtain ⟨rfl, rfl⟩ := List.cons.inj h
        rw [if_pos hends]

/-- Inert characters are read one by one. -/
theorem readWord_bare (scope : Scope) {s : List Char} (inert : ∀ c ∈ s, isInert c = true)
    {after rest : List Char} {word : Word} {needed : Nat}
    (hafter : ∀ fuel, needed < fuel → readWord scope fuel after = .ok (word, rest)) {fuel : Nat}
    (hfuel : s.length + needed < fuel) :
    readWord scope fuel (s ++ after) = .ok (s.map .plain ++ word, rest) := by
  induction s generalizing fuel with
  | nil => exact hafter fuel (by simpa using hfuel)
  | cons c s ih =>
      obtain ⟨fuel, rfl⟩ := Nat.exists_eq_add_one_of_ne_zero (Nat.ne_zero_of_lt hfuel)
      have hfuel : s.length + needed < fuel := by
        rw [List.length_cons] at hfuel
        omega
      rw [List.cons_append, readWord_inert scope fuel _ (inert c List.mem_cons_self),
        ih (fun d hd => inert d (List.mem_cons_of_mem c hd)) hfuel]
      rfl

/-- A literal word is read as its pieces, up to where it ends. -/
theorem readWord_spelling (scope : Scope) (w : Literal) {rest : List Char} (hrest : EndsAt rest)
    {fuel : Nat} (hfuel : w.spelling.length < fuel) :
    readWord scope fuel (w.spelling ++ rest) = .ok (w.pieces, rest) := by
  induction w generalizing fuel with
  | nil =>
      obtain ⟨fuel, rfl⟩ := Nat.exists_eq_add_one_of_ne_zero (Nat.ne_zero_of_lt hfuel)
      exact readWord_of_endsAt scope fuel hrest
  | cons p w ih =>
      have hspelling : Literal.spelling (p :: w) = p.spelling ++ Literal.spelling w := rfl
      rw [hspelling, List.length_append] at hfuel
      rw [hspelling, List.append_assoc]
      cases p with
      | bare s inert => exact readWord_bare scope (List.all_eq_true.mp inert) (fun fuel => ih) hfuel
      | quoted s =>
          obtain ⟨fuel, rfl⟩ := Nat.exists_eq_add_one_of_ne_zero (Nat.ne_zero_of_lt hfuel)
          simp only [Part.spelling, quoteChars, List.length_cons, List.length_append] at hfuel
          rw [Part.spelling, readWord_quote scope fuel _ s (by omega), ih (by omega)]
          rfl

end RouteKeeper.Shell
