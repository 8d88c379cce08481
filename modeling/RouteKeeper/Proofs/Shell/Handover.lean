import RouteKeeper.Proofs.Shell.Literal
import RouteKeeper.Proofs.Text.Bytes
import RouteKeeper.Proofs.Text.Utf8

/-!
# Handing a command to the shell

The shell gets the bytes of a command. The characters that mean something to it are all their own
bytes, and no other character has such a byte, so a text can be quoted before its bytes are taken
or afterwards.
-/

namespace RouteKeeper.Shell

open Text (byteChars byteChars_of_lt le_of_mem_byteChars)

/-- A text as the shell gets it: its bytes, each as the character of the same code. -/
def handed (s : String) : String :=
  Text.ofBytes (Text.utf8 s)

theorem toList_handed (s : String) : (handed s).toList = s.toList.flatMap byteChars :=
  Text.toList_ofBytes_utf8 s

theorem handed_append (s t : String) : handed (s ++ t) = handed s ++ handed t := by
  apply String.toList_injective
  simp only [toList_handed, String.toList_append, List.flatMap_append]

/-- Different texts are handed over differently. -/
theorem handed_injective : Function.Injective handed := by
  intro s t h
  have hbytes : Text.toBytes (handed s) = Text.toBytes (handed t) := congrArg Text.toBytes h
  rw [handed, handed, Text.toBytes_ofBytes, Text.toBytes_ofBytes] at hbytes
  exact Text.utf8_injective hbytes

/-- Characters below 128 are handed over as they are. -/
theorem handed_of_lt {s : String} (h : s.toList.all (·.toNat < 128) = true) : handed s = s := by
  apply String.toList_injective
  rw [toList_handed]
  generalize s.toList = cs at h
  induction cs with
  | nil => rfl
  | cons c cs ih =>
      obtain ⟨hc, hcs⟩ := Bool.and_eq_true_iff.mp h
      rw [List.flatMap_cons, byteChars_of_lt (of_decide_eq_true hc), ih hcs]
      rfl

/-- Special characters are below 128. -/
theorem isSpecial_of_le {c : Char} (hc : 128 ≤ c.toNat) : isSpecial c = false := by
  have hne {d : Char} (hd : d.toNat < 128) : c ≠ d := by
    rintro rfl
    omega
  simp only [isSpecial, Bool.or_eq_false_iff, beq_eq_false_iff_ne]
  exact ⟨⟨⟨⟨hne (by decide), hne (by decide)⟩, hne (by decide)⟩, hne (by decide)⟩, hne (by decide)⟩

theorem escape_append (s t : List Char) : escape (s ++ t) = escape s ++ escape t := by
  induction s with
  | nil => rfl
  | cons c s ih =>
      by_cases hc : isSpecial c = true
      · simp [escape, hc, ih]
      · simp [escape, hc, ih]

theorem escape_of_not_special {s : List Char} (h : ∀ c ∈ s, isSpecial c = false) :
    escape s = s := by
  induction s with
  | nil => rfl
  | cons c s ih =>
      obtain ⟨hc, hs⟩ := List.forall_mem_cons.mp h
      simp [escape, hc, ih hs]

/-- The bytes of a text are escaped as its characters are. -/
theorem escape_flatMap_byteChars (s : List Char) :
    escape (s.flatMap byteChars) = (escape s).flatMap byteChars := by
  induction s with
  | nil => rfl
  | cons c s ih =>
      rw [List.flatMap_cons, escape_append, ih]
      by_cases hc : c.toNat < 128
      · have hbackslash : byteChars '\\' = ['\\'] := byteChars_of_lt (by decide)
        by_cases hspecial : isSpecial c = true
        · simp [escape, hspecial, byteChars_of_lt hc, hbackslash]
        · simp [escape, hspecial, byteChars_of_lt hc]
      · have hc : 128 ≤ c.toNat := Nat.le_of_not_lt hc
        have hbytes : escape (byteChars c) = byteChars c :=
          escape_of_not_special fun d hd => isSpecial_of_le (le_of_mem_byteChars hc hd)
        simp [escape, isSpecial_of_le hc, hbytes]

/-- A quoted text is handed over as its bytes, quoted. -/
theorem toList_handed_quote (s : String) :
    (handed (quote s)).toList = quoteChars (handed s).toList := by
  have hquote : byteChars '"' = ['"'] := byteChars_of_lt (by decide)
  simp [toList_handed, quote, quoteChars, escape_flatMap_byteChars, hquote]

/-- A text without its newlines. -/
def withoutNewlines (s : String) : String :=
  String.ofList (unbroken s.toList)

/-- The bytes of a text lose their newlines as its characters do. -/
theorem unbroken_flatMap_byteChars (s : List Char) :
    unbroken (s.flatMap byteChars) = (unbroken s).flatMap byteChars := by
  induction s with
  | nil => rfl
  | cons c s ih =>
      have happend : unbroken (byteChars c ++ s.flatMap byteChars) =
          unbroken (byteChars c) ++ unbroken (s.flatMap byteChars) := List.filter_append ..
      rw [List.flatMap_cons, happend, ih]
      by_cases hline : c = '\n'
      · subst hline
        rfl
      · have hbytes : unbroken (byteChars c) = byteChars c := by
          refine List.filter_eq_self.mpr fun d hd => bne_iff_ne.mpr ?_
          rintro rfl
          by_cases hc : c.toNat < 128
          · rw [byteChars_of_lt hc, List.mem_singleton] at hd
            exact hline hd.symm
          · exact absurd (le_of_mem_byteChars (Nat.le_of_not_lt hc) hd) (by decide)
        have hkept : unbroken (c :: s) = c :: unbroken s := by simp [unbroken, hline]
        rw [hbytes, hkept, List.flatMap_cons]

/-- No newline is lost or found where the bytes are taken. -/
theorem unbroken_handed (s : String) :
    unbroken (handed s).toList = (handed (withoutNewlines s)).toList := by
  rw [toList_handed, toList_handed, withoutNewlines, String.toList_ofList,
    unbroken_flatMap_byteChars]

/-- A text stays as it is without its newlines if and only if it has none. -/
theorem withoutNewlines_eq_iff (s : String) : withoutNewlines s = s ↔ '\n' ∉ s.toList := by
  have hself : withoutNewlines s = s ↔ unbroken s.toList = s.toList := by
    rw [← String.toList_inj, withoutNewlines, String.toList_ofList]
  rw [hself, unbroken, List.filter_eq_self]
  constructor
  · intro h hmem
    exact absurd (h _ hmem) (by decide)
  · intro h c hc
    exact bne_iff_ne.mpr fun hline => h (hline ▸ hc)

end RouteKeeper.Shell
