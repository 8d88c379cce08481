import RouteKeeper.Proofs.Shell.Literal

/-!
# Commands of literal words

A line of literal words with blanks between them is one simple command.
-/

namespace RouteKeeper.Shell

/-- Literal words as they are written one after another, with a blank before each. -/
def blanked (ws : List Literal) : List Char :=
  ws.flatMap fun w => ' ' :: w.spelling

/-- A blank at the front makes no difference to a token. -/
theorem rawToken_blank (scope : Scope) (cs : List Char) :
    rawToken scope (' ' :: cs) = rawToken scope cs := rfl

/-- What follows a word in a line of words: nothing, or a blank. -/
theorem blanked_cases (ws : List Literal) : blanked ws = [] ∨ ∃ cs, blanked ws = ' ' :: cs := by
  cases ws with
  | nil => exact Or.inl rfl
  | cons w ws => exact Or.inr ⟨_, rfl⟩

theorem length_le_length_blanked (ws : List Literal) : ws.length ≤ (blanked ws).length := by
  induction ws with
  | nil => exact Nat.le_refl 0
  | cons w ws ih =>
      simp only [blanked, List.flatMap_cons, List.length_append, List.length_cons] at ih ⊢
      omega

/-- A character that ends no word begins no operator. -/
theorem operator?_eq_none {c : Char} (hends : endsWord c = false) (cs : List Char) :
    operator? (c :: cs) = none := by
  have hne {d : Char} (hd : endsWord d = true) : c ≠ d := by
    rintro rfl
    exact Bool.noConfusion (hends.symm.trans hd)
  unfold operator?
  split
  case h_1 h => exact absurd (List.cons.inj h).1 (hne (by decide))
  case h_2 h => exact absurd (List.cons.inj h).1 (hne (by decide))
  case h_3 h => exact absurd (List.cons.inj h).1 (hne (by decide))
  case h_4 h => exact absurd (List.cons.inj h).1 (hne (by decide))
  case h_5 h => exact absurd (List.cons.inj h).1 (hne (by decide))
  case h_6 h => exact absurd (List.cons.inj h).1 (hne (by decide))
  case h_7 => rfl

/-- Blanks and comments are passed over, and nothing else. -/
theorem skipBlanks_of_ne {c : Char} (hends : endsWord c = false) (hjoin : c ≠ '\\')
    (hcomment : c ≠ '#') (fuel : Nat) (cs : List Char) :
    skipBlanks (fuel + 1) (c :: cs) = c :: cs := by
  have hblank : isBlank c = false := by
    rw [endsWord, Bool.or_eq_false_iff] at hends
    exact hends.1
  rw [skipBlanks, skipJoins_cons_of_ne hjoin]
  split
  case h_1 h => exact absurd (List.cons.inj h).1 hcomment
  case h_2 h =>
    obtain ⟨rfl, rfl⟩ := List.cons.inj h
    rw [if_neg (Bool.eq_false_iff.mp hblank)]
  case h_3 h => cases h

/-- A literal word is a token, up to the blank after it. -/
theorem rawToken_spelling (scope : Scope) {w : Literal} (hw : w.spelling ≠ []) (ws : List Literal) :
    rawToken scope (w.spelling ++ blanked ws) = .ok (.word w.pieces, blanked ws) := by
  have hends : EndsAt (blanked ws) := by
    rcases blanked_cases ws with h | ⟨cs, h⟩
    · rw [h]
      exact nofun
    · rw [h]
      intro c hc
      obtain rfl := Option.mem_some_iff.mp hc
      rfl
  have hfuel : w.spelling.length < 2 * (w.spelling ++ blanked ws).length + 2 := by
    rw [List.length_append]
    omega
  have hread := readWord_spelling scope w hends hfuel
  obtain ⟨c, cs, hspelling, hc⟩ := w.spelling_cases hw
  rw [hspelling, List.cons_append] at hread ⊢
  have hstart : endsWord c = false ∧ c ≠ '\\' ∧ c ≠ '#' := by
    rcases hc with rfl | hc
    · decide
    · exact ⟨endsWord_of_isInert hc, ne_of_isInert hc rfl, ne_of_isInert hc rfl⟩
  obtain ⟨hword, hjoin, hcomment⟩ := hstart
  rw [rawToken, skipBlanks_of_ne hword hjoin hcomment]
  simp only [operator?_eq_none hword, hread, bind, Except.bind]
  -- A digit before a redirection would be no word, but nothing or a blank follows.
  rcases blanked_cases ws with h | ⟨rest, h⟩
  · rw [h]
    cases descriptor? w.pieces with
    | none => rfl
    | some descriptor => rfl
  · rw [h]
    cases descriptor? w.pieces with
    | none => rfl
    | some descriptor => rfl

/-- A reader takes a source to another one with a result. -/
def Reads {α : Type} (p : Parse α) (s : Source) (a : α) (s' : Source) : Prop :=
  p.run s = .ok (a, s')

theorem Reads.bind {α β : Type} {p : Parse α} {f : α → Parse β} {s s' s'' : Source} {a : α} {b : β}
    (hp : Reads p s a s') (hf : Reads (f a) s' b s'') : Reads (p >>= f) s b s'' := by
  rw [Reads, StateT.run_bind, hp]
  exact hf

theorem reads_pure {α : Type} (a : α) (s : Source) : Reads (pure a) s a s := rfl

theorem reads_get (s : Source) : Reads get s s s := rfl

theorem reads_set (s s' : Source) : Reads (set s') s PUnit.unit s' := rfl

theorem reads_lift {α : Type} {read : Except Mistake α} {a : α} (h : read = .ok a) (s : Source) :
    Reads (liftM read) s a s := by
  rw [h]
  rfl

theorem reads_expect (expected : Expected) (s : Source) :
    Reads (expect expected) s () { s with expected } := rfl

theorem reads_line (t : Setting) (s : Source) : Reads t.line s (t.lineOf s.rest) s := rfl

theorem reads_putBack (found : Token) (s : Source) :
    Reads (putBack found) s () { s with pushed := some found } := rfl

/-- A token that is taken as it is wherever a token is read: the end, or a word that is neither
reserved nor an alias. -/
def Token.IsPlain (t : Setting) : Token → Prop
  | .ending => True
  | .word pieces => ∀ text, bareText? pieces = some text →
    reservedWords.contains text = false ∧ t.aliases.lookup text = none
  | _ => False

theorem Token.isPlain_ending {t : Setting} : Token.ending.IsPlain t := trivial

/-- The last word read once a token is. -/
def Token.lastWord (last : Word) : Token → Word
  | .word pieces => pieces
  | _ => last

section

variable {t : Setting} (fuel : Nat) {found : Token} (hfound : found.IsPlain t)
  (expected : Expected) (last : Word)
include hfound

/-- A plain token that was put back is read again. -/
theorem reads_next_pushed (rest : List Char) :
    Reads (next t (fuel + 1)) { rest, pushed := some found, expected, lastWord := last } found
      { rest, lastWord := last } := by
  cases found with
  | ending => rfl
  | word word =>
      rw [next, token]
      refine .bind (reads_get _) (.bind (reads_set _ _) (.bind (reads_pure _ _) ?_))
      refine .bind (reads_get _) (.bind (reads_set _ _) ?_)
      dsimp only
      cases htext : bareText? word with
      | none => rfl
      | some text =>
          simp only [hfound text htext, Bool.and_false]
          cases haliases : expected.aliases with
          | false => rfl
          | true => rfl
  | _ => exact hfound.elim

/-- A plain token is read from the text. -/
theorem reads_next {cs rest : List Char} (hraw : ∀ scope, rawToken scope cs = .ok (found, rest)) :
    Reads (next t (fuel + 1)) { rest := cs, expected, lastWord := last } found
      { rest, lastWord := found.lastWord last } := by
  rw [next, token]
  refine .bind (reads_get _) (.bind (reads_lift (hraw _) _) ?_)
  refine .bind (reads_set _ _) (.bind (reads_pure _ _) ?_)
  refine .bind (reads_get _) (.bind (reads_set _ _) ?_)
  cases found with
  | ending => rfl
  | word word =>
      dsimp only
      cases htext : bareText? word with
      | none => rfl
      | some text =>
          simp only [hfound text htext, Bool.and_false]
          cases haliases : expected.aliases with
          | false => rfl
          | true => rfl
  | _ => exact hfound.elim

end

section

variable {t : Setting}

/-- A literal word that can stand after the name of a command. -/
structure Literal.IsArgument (t : Setting) (w : Literal) : Prop where
  spelling_ne_nil : w.spelling ≠ []
  isPlain : (Token.word w.pieces).IsPlain t

/-- A literal word that can be the name of a command. -/
structure Literal.IsName (t : Setting) (w : Literal) : Prop extends w.IsArgument t where
  assignment?_eq_none : assignment? w.pieces = none

/-- Without aliases, a literal word that is not reserved can stand after a name. -/
theorem Literal.isArgument (ht : t.aliases = []) {w : Literal} (hw : w.spelling ≠ [])
    (hreserved : ∀ text ∈ bareText? w.pieces, reservedWords.contains text = false) :
    w.IsArgument t where
  spelling_ne_nil := hw
  isPlain := by
    intro text htext
    rw [ht]
    exact ⟨hreserved text htext, rfl⟩

/-- Literal words up to the end are the words of a simple command. -/
theorem reads_simple (line : Nat) (ws : List Literal)
    (hws : ∀ w ∈ ws, w.IsArgument t) {fuel : Nat}
    (hfuel : ws.length + 1 < fuel) {parts : Parts} (hparts : parts.words ≠ []) (last : Word) :
    ∃ last', Reads (simple t fuel line parts) { rest := blanked ws, lastWord := last }
      (.simple line parts.assignments (parts.words ++ ws.map Literal.pieces) parts.redirections)
      { rest := [], pushed := some .ending, lastWord := last' } := by
  have hnotFirst (parts : Parts) (hparts : parts.words ≠ []) : ¬parts.words.isEmpty = true :=
    mt List.isEmpty_iff.mp hparts
  induction ws generalizing fuel parts last with
  | nil =>
      obtain ⟨fuel, rfl⟩ : ∃ n, fuel = n + 2 := Nat.exists_eq_add_of_le' hfuel
      refine ⟨last, ?_⟩
      unfold simple
      simp only [if_neg (hnotFirst parts hparts), List.map_nil, List.append_nil]
      refine .bind (reads_next _ Token.isPlain_ending _ _ fun _ => rfl) ?_
      exact .bind (reads_putBack _ _) (reads_pure _ _)
  | cons w ws ih =>
      obtain ⟨fuel, rfl⟩ := Nat.exists_eq_add_one_of_ne_zero (Nat.ne_zero_of_lt hfuel)
      obtain ⟨hw, hws⟩ := List.forall_mem_cons.mp hws
      have hfuel : ws.length + 1 < fuel := by
        rw [List.length_cons] at hfuel
        omega
      have hraw (scope : Scope) :
          rawToken scope (blanked (w :: ws)) = .ok (.word w.pieces, blanked ws) :=
        (rawToken_blank scope _).trans (rawToken_spelling scope hw.spelling_ne_nil ws)
      let more : Parts := { parts with words := parts.words ++ [w.pieces] }
      have hmore : more.words ≠ [] := List.append_ne_nil_of_right_ne_nil _ (List.cons_ne_nil _ _)
      obtain ⟨last', hrest⟩ := ih hws hfuel hmore w.pieces
      refine ⟨last', ?_⟩
      obtain ⟨fuel, rfl⟩ := Nat.exists_eq_add_one_of_ne_zero (Nat.ne_zero_of_lt hfuel)
      unfold simple
      simp only [if_neg (hnotFirst parts hparts)]
      refine .bind (reads_next _ hw.isPlain _ _ hraw) ?_
      rw [show parts.words.isEmpty = false by simp [hparts]]
      simpa [more, Token.lastWord] using hrest

variable {name : Literal} (hname : name.IsName t) {ws : List Literal}
  (hws : ∀ w ∈ ws, w.IsArgument t)
include hname hws

/-- After its name, which was put back, a command has literal words as arguments. -/
theorem reads_command {fuel : Nat} (hfuel : ws.length + 3 < fuel) (expected : Expected)
    (last : Word) :
    ∃ last', Reads (command t fuel)
      { rest := blanked ws, pushed := some (.word name.pieces), expected, lastWord := last }
      (.simple (t.lineOf (blanked ws)) [] ((name :: ws).map Literal.pieces) [])
      { rest := [], pushed := some .ending, lastWord := last' } := by
  obtain ⟨fuel, rfl⟩ : ∃ n, fuel = n + 4 := ⟨fuel - 4, by omega⟩
  have hargs : ws.length + 1 < fuel + 2 := by omega
  let parts : Parts := { words := [name.pieces] }
  have hparts : parts.words ≠ [] := List.cons_ne_nil _ _
  obtain ⟨last', hrest⟩ := reads_simple (t.lineOf (blanked ws)) ws hws hargs hparts last
  refine ⟨last', ?_⟩
  rw [command]
  refine .bind (reads_line _ _) (.bind (reads_next_pushed _ hname.isPlain _ _ _) ?_)
  refine .bind (reads_putBack _ _) (.bind (reads_line _ _) ?_)
  unfold simple
  refine .bind (reads_expect _ _) ?_
  refine .bind (reads_next_pushed _ hname.isPlain _ _ _) ?_
  simp only [hname.assignment?_eq_none]
  exact hrest

omit hname hws in
/-- At the end of the text no further stage of a pipeline is read. -/
theorem reads_moreStages (fuel : Nat) (expected : Expected) (last : Word) :
    Reads (moreStages t (fuel + 2))
      { rest := [], pushed := some .ending, expected, lastWord := last } []
      { rest := [], pushed := some .ending, lastWord := last } := by
  rw [moreStages]
  refine .bind (reads_next_pushed _ Token.isPlain_ending _ _ _) ?_
  exact .bind (reads_putBack _ _) (reads_pure _ _)

omit hname hws in
/-- At the end of the text nothing is joined to a command. -/
theorem reads_andOrAfter (fuel : Nat) (expected : Expected) (last : Word) (first : Command) :
    Reads (andOrAfter t (fuel + 2) first)
      { rest := [], pushed := some .ending, expected, lastWord := last } first
      { rest := [], pushed := some .ending, lastWord := last } := by
  rw [andOrAfter]
  refine .bind (reads_next_pushed _ Token.isPlain_ending _ _ _) ?_
  exact .bind (reads_putBack _ _) (reads_pure _ _)

/-- So the command is not joined to another one. -/
theorem reads_andOr {fuel : Nat} (hfuel : ws.length + 6 < fuel) (expected : Expected)
    (last : Word) :
    ∃ last', Reads (andOr t fuel)
      { rest := blanked ws, pushed := some (.word name.pieces), expected, lastWord := last }
      (.simple (t.lineOf (blanked ws)) [] ((name :: ws).map Literal.pieces) [])
      { rest := [], pushed := some .ending, lastWord := last' } := by
  obtain ⟨fuel, rfl⟩ : ∃ n, fuel = n + 7 := ⟨fuel - 7, by omega⟩
  have hinside : ws.length + 3 < fuel + 4 := by omega
  obtain ⟨last', hcommand⟩ := reads_command hname hws hinside {} last
  refine ⟨last', ?_⟩
  rw [andOr, pipeline, stages]
  refine .bind ?_ (reads_andOrAfter _ {} _ _)
  refine .bind (reads_next_pushed _ hname.isPlain _ _ _) ?_
  refine .bind (reads_putBack _ _) (.bind hcommand ?_)
  exact .bind (reads_moreStages _ _ _) (reads_pure _ _)

omit hname hws in
/-- No here-document is awaited. -/
theorem reads_readAwaited (scope : Scope) {s : Source} (hs : s.awaited = []) :
    Reads (readAwaited scope) s () s := by
  obtain ⟨rest, pushed, expected, awaited, documents, active, chained, lastWord⟩ := s
  obtain rfl := hs
  rfl

/-- A line of literal words is one simple command. -/
theorem reads_list {fuel : Nat} (hfuel : ws.length + 7 < fuel) (last : Word) :
    ∃ last', Reads (list t fuel .line false .nothing)
      { rest := name.spelling ++ blanked ws, lastWord := last }
      (.simple (t.lineOf (blanked ws)) [] ((name :: ws).map Literal.pieces) [])
      { rest := [], pushed := some .ending, lastWord := last' } := by
  obtain ⟨fuel, rfl⟩ : ∃ n, fuel = n + 8 := ⟨fuel - 8, by omega⟩
  have hinside : ws.length + 6 < fuel + 7 := by omega
  obtain ⟨last', handOr⟩ := reads_andOr hname hws hinside {} name.pieces
  refine ⟨last', ?_⟩
  have hraw (scope : Scope) : rawToken scope (name.spelling ++ blanked ws) =
      .ok (.word name.pieces, blanked ws) := rawToken_spelling scope hname.spelling_ne_nil ws
  rw [list]
  refine .bind (reads_expect _ _) (.bind (reads_next _ hname.isPlain _ _ hraw) ?_)
  refine .bind (reads_putBack _ _) ?_
  refine .bind handOr (.bind (reads_line _ _) ?_)
  refine .bind (reads_next_pushed _ Token.isPlain_ending _ _ _) ?_
  rw [atEnd]
  exact .bind (reads_readAwaited _ rfl) (.bind (reads_putBack _ _) (reads_pure _ _))

/-- A line of literal words is read as one simple command, and nothing is left. -/
theorem readLine_words :
    ∃ last, readLine t { rest := name.spelling ++ blanked ws } =
      .ok (some (.mk (.simple (t.lineOf (blanked ws)) [] ((name :: ws).map Literal.pieces) []) []),
        { rest := [], pushed := some .ending, lastWord := last }) := by
  have hfuel : ws.length + 7 < fuelFor (name.spelling ++ blanked ws) := by
    have hlength := length_le_length_blanked ws
    rw [fuelFor, List.length_append]
    omega
  obtain ⟨last, hlist⟩ := reads_list hname hws hfuel []
  rw [Reads] at hlist
  refine ⟨last, ?_⟩
  simp only [readLine, hlist]
  rfl

omit hname hws in
/-- Once the end was put back, no further line is read. -/
theorem readLine_end (last : Word) :
    ∃ s, readLine t { rest := [], pushed := some .ending, lastWord := last } = .ok (none, s) := by
  refine ⟨{ rest := [], pushed := some .ending, lastWord := last }, ?_⟩
  have hlist : Reads (list t (fuelFor []) .line false .nothing)
      { rest := [], pushed := some .ending, lastWord := last } .nothing
      { rest := [], pushed := some .ending, lastWord := last } := by
    rw [fuelFor, list]
    refine .bind (reads_expect _ _) ?_
    refine .bind (reads_next_pushed _ Token.isPlain_ending _ _ _) ?_
    rw [atEnd]
    exact .bind (reads_readAwaited _ rfl) (.bind (reads_putBack _ _) (reads_pure _ _))
  rw [Reads] at hlist
  simp only [readLine, hlist]
  rfl

end

/-- **Literal words are one command.** A script of literal words with blanks between them is a
single simple command of these words, without assignments and redirections. -/
theorem script?_words {name : Literal} {ws : List Literal}
    (hname : ∀ t : Setting, t.aliases = [] → name.IsName t)
    (hws : ∀ t : Setting, t.aliases = [] → ∀ w ∈ ws, w.IsArgument t) :
    script? (String.ofList (name.spelling ++ blanked ws)) =
      some [.simple (lineEnds name.spelling + 1) [] ((name :: ws).map Literal.pieces) []] := by
  let t : Setting := { last := lineEnds (name.spelling ++ blanked ws) + 1 }
  have hline : t.lineOf (blanked ws) = lineEnds name.spelling + 1 := by
    simp only [t, Setting.lineOf, lineEnds, List.count_append]
    omega
  obtain ⟨last, hread⟩ := readLine_words (hname t rfl) (hws t rfl)
  obtain ⟨s, hend⟩ := readLine_end (t := t) last
  rw [script?, String.toList_ofList, readLines?, hread]
  dsimp only
  rw [readLines?, hend, hline]
  rfl

end RouteKeeper.Shell
