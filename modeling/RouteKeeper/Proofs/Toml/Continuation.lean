import RouteKeeper.Toml.Reader

/-!
# Documents that go on

A document may be followed by further lines: it is then read as before, and the statements of the
further lines come after its own. Each reader takes what it took before and leaves the further lines
to the next one.

## Implementation notes

A reader that passes over line ends may come to the end of a text, and would then go on into the
lines behind it; and a line end behind a lone carriage return makes a line end of both. So the
lemmas about such readers are told for what is not left empty or with nothing but a carriage
return, which any reader after them refuses.
-/

namespace RouteKeeper.Toml

variable {cs rest more : List Char}

/-- The reader takes the same from a text when further lines come behind it. -/
def GoesOn {α : Type} (read : List Char → Option (α × List Char)) : Prop :=
  ∀ ⦃cs x rest⦄, read cs = some (x, rest) →
    ∀ more, read (cs ++ '\n' :: more) = some (x, rest ++ '\n' :: more)

/-- With no less fuel, the reader takes the same from a text when further lines come behind it. -/
def GoesOnWith {α : Type} (read : Nat → List Char → Option (α × List Char)) : Prop :=
  ∀ ⦃fuel fuel' cs x rest⦄, fuel ≤ fuel' → read fuel cs = some (x, rest) →
    ∀ more, read fuel' (cs ++ '\n' :: more) = some (x, rest ++ '\n' :: more)

theorem length_succ_le_append : cs.length + 1 ≤ (cs ++ '\n' :: more).length + 1 := by
  rw [List.length_append]
  omega

/-- The length of the text is fuel enough before and after. -/
theorem GoesOnWith.goesOn {α : Type} {read : Nat → List Char → Option (α × List Char)}
    (h : GoesOnWith read) : GoesOn fun cs => read (cs.length + 1) cs :=
  fun _ _ _ hread more => h length_succ_le_append hread more

theorem GoesOn.map {α β : Type} {read : List Char → Option (α × List Char)} (h : GoesOn read)
    (f : α → β) : GoesOn fun cs => (read cs).map fun (x, rest) => (f x, rest) := by
  intro cs y rest hread more
  obtain ⟨⟨x, rest⟩, hx, heq⟩ := Option.map_eq_some_iff.1 hread
  cases heq
  simp only [h hx more, Option.map_some]

/-- A line end behind the text does not change how it begins. -/
def Lasts (cs : List Char) : Prop :=
  cs ≠ [] ∧ cs ≠ ['\r']

theorem lasts_cons {c : Char} (hc : c ≠ '\r') : Lasts (c :: cs) :=
  ⟨by simp, by simp [hc]⟩

/-- The reader reads nothing from a text that is at its end. -/
def RefusesEnd {α : Type} (read : List Char → Option α) : Prop :=
  ∀ ⦃cs x⦄, read cs = some x → Lasts cs

theorem refusesEnd_of_eq_none {α : Type} {read : List Char → Option α} (hnil : read [] = none)
    (hreturn : read ['\r'] = none) : RefusesEnd read := by
  intro cs x h
  refine ⟨?_, ?_⟩ <;> rintro rfl
  · rw [hnil] at h
    cases h
  · rw [hreturn] at h
    cases h

/-! ## Blanks, comments and line ends -/

theorem dropWhile_append_cons {p : Char → Bool} {c : Char} (hc : p c = false) :
    (cs ++ c :: more).dropWhile p = cs.dropWhile p ++ c :: more := by
  rw [List.dropWhile_append]
  split
  · next hempty => simp [List.isEmpty_iff.1 hempty, hc]
  · rfl

theorem takeWhile_append_cons {p : Char → Bool} {c : Char} (hc : p c = false) :
    (cs ++ c :: more).takeWhile p = cs.takeWhile p := by
  rw [List.takeWhile_append]
  split
  · next hlength => simp [(List.takeWhile_prefix p).eq_of_length hlength, hc]
  · rfl

theorem skipWhite_append : skipWhite (cs ++ '\n' :: more) = skipWhite cs ++ '\n' :: more :=
  dropWhile_append_cons (by decide)

theorem skipComment_append :
    skipComment (cs ++ '\n' :: more) = skipComment cs ++ '\n' :: more := by
  cases cs with
  | nil => rfl
  | cons c cs =>
      by_cases hc : c = '#'
      · subst hc
        exact dropWhile_append_cons (by decide)
      · simp [skipComment, hc]

theorem length_skipWhite_le : (skipWhite cs).length ≤ cs.length :=
  (List.dropWhile_sublist _).length_le

theorem length_skipComment_le : (skipComment cs).length ≤ cs.length := by
  unfold skipComment
  split
  · exact Nat.le_succ_of_le (List.dropWhile_sublist _).length_le
  · exact Nat.le_refl _

theorem newline?_append_of_some {after : List Char} (h : newline? cs = some rest) :
    newline? (cs ++ after) = some (rest ++ after) := by
  unfold newline? at h
  split at h
  · cases h
    rfl
  · cases h
    rfl
  · cases h

theorem newline?_eq_none_iff : newline? cs = none ↔
    (∀ rest, cs ≠ '\n' :: rest) ∧ ∀ rest, cs ≠ '\r' :: '\n' :: rest := by
  unfold newline?
  split <;> simp_all

theorem newline?_append_of_none (h : newline? cs = none) (hlasts : Lasts cs) :
    newline? (cs ++ '\n' :: more) = none := by
  obtain ⟨hline, hreturn⟩ := newline?_eq_none_iff.1 h
  refine newline?_eq_none_iff.2 ⟨fun rest heq => ?_, fun rest heq => ?_⟩
  · obtain _ | ⟨c, cs⟩ := cs
    · exact hlasts.1 rfl
    · cases heq
      exact hline cs rfl
  · obtain _ | ⟨c, _ | ⟨d, cs⟩⟩ := cs
    · exact hlasts.1 rfl
    · cases heq
      exact hlasts.2 rfl
    · cases heq
      exact hreturn cs rfl

theorem length_newline?_lt (h : newline? cs = some rest) : rest.length < cs.length := by
  unfold newline? at h
  split at h <;> cases h <;> simp only [List.length_cons] <;> omega

/-! ## Passing over line ends -/

/-- Passes over line ends and the gaps in front of them. -/
def passLines (gap : List Char → List Char) : Nat → List Char → List Char
  | 0, cs => cs
  | fuel + 1, cs =>
    match newline? (gap cs) with
    | some rest => passLines gap fuel rest
    | none => gap cs

theorem skipLines_eq : skipLines = passLines (skipComment ∘ skipWhite) := by
  funext fuel cs
  induction fuel generalizing cs with
  | zero => rfl
  | succ fuel ih =>
      simp only [skipLines, passLines, Function.comp_apply]
      cases newline? (skipComment (skipWhite cs)) with
      | none => rfl
      | some rest => exact ih rest

theorem skipBlankLines_eq : skipBlankLines = passLines skipWhite := by
  funext fuel cs
  induction fuel generalizing cs with
  | zero => rfl
  | succ fuel ih =>
      simp only [skipBlankLines, passLines]
      cases newline? (skipWhite cs) with
      | none => rfl
      | some rest => exact ih rest

section Gap

variable {gap : List Char → List Char} {fuel fuel' fuel'' : Nat}

/-- Any fuel above the length of the text will do. -/
theorem passLines_congr (hlength : ∀ cs, (gap cs).length ≤ cs.length)
    (hfuel : cs.length < fuel) (hfuel' : cs.length < fuel') :
    passLines gap fuel cs = passLines gap fuel' cs := by
  induction fuel generalizing cs fuel' with
  | zero => omega
  | succ fuel ih =>
      obtain _ | fuel' := fuel'
      · omega
      simp only [passLines]
      cases hline : newline? (gap cs) with
      | none => rfl
      | some rest =>
          have hrest := length_newline?_lt hline
          have hgap := hlength cs
          exact ih (by omega) (by omega)

/-- What is left of a text that lasts is left of it with further lines, and these are left too. -/
theorem passLines_append (happend : ∀ cs, gap (cs ++ '\n' :: more) = gap cs ++ '\n' :: more)
    (hlength : ∀ cs, (gap cs).length ≤ cs.length) (hfuel : cs.length < fuel)
    (hfuel' : cs.length < fuel') (hlasts : Lasts (passLines gap fuel cs)) :
    passLines gap fuel' (cs ++ '\n' :: more) = passLines gap fuel cs ++ '\n' :: more := by
  induction fuel generalizing cs fuel' with
  | zero => omega
  | succ fuel ih =>
      obtain _ | fuel' := fuel'
      · omega
      simp only [passLines, happend] at hlasts ⊢
      cases hline : newline? (gap cs) with
      | none =>
          rw [hline] at hlasts
          rw [newline?_append_of_none hline hlasts]
      | some rest =>
          rw [hline] at hlasts
          rw [newline?_append_of_some hline]
          have hrest := length_newline?_lt hline
          have hgap := hlength cs
          exact ih (by omega) (by omega) hlasts

/-- A text of which nothing is left leaves of further lines what these leave by themselves. -/
theorem passLines_append_of_nil
    (happend : ∀ cs, gap (cs ++ '\n' :: more) = gap cs ++ '\n' :: more)
    (hlength : ∀ cs, (gap cs).length ≤ cs.length) (hfuel : cs.length < fuel)
    (hfuel' : (cs ++ '\n' :: more).length < fuel') (hmore : more.length < fuel'')
    (hnil : passLines gap fuel cs = []) :
    passLines gap fuel' (cs ++ '\n' :: more) = passLines gap fuel'' more := by
  induction fuel generalizing cs fuel' with
  | zero => omega
  | succ fuel ih =>
      obtain _ | fuel' := fuel'
      · omega
      simp only [List.length_append, List.length_cons] at hfuel'
      simp only [passLines, happend] at hnil ⊢
      cases hline : newline? (gap cs) with
      | none =>
          rw [hline] at hnil
          rw [show gap cs = [] from hnil]
          exact passLines_congr hlength (by omega) hmore
      | some rest =>
          rw [hline] at hnil
          rw [newline?_append_of_some hline]
          have hrest := length_newline?_lt hline
          have hgap := hlength cs
          exact ih (by omega) (by simp only [List.length_append, List.length_cons]; omega) hnil

end Gap

theorem length_skipComment_skipWhite_le (cs : List Char) :
    ((skipComment ∘ skipWhite) cs).length ≤ cs.length :=
  Nat.le_trans length_skipComment_le length_skipWhite_le

theorem skipComment_skipWhite_append (cs : List Char) :
    (skipComment ∘ skipWhite) (cs ++ '\n' :: more) =
      (skipComment ∘ skipWhite) cs ++ '\n' :: more := by
  simp [skipWhite_append, skipComment_append]

theorem skipAll_append (hlasts : Lasts (skipAll cs)) :
    skipAll (cs ++ '\n' :: more) = skipAll cs ++ '\n' :: more := by
  simp only [skipAll, skipLines_eq] at hlasts ⊢
  exact passLines_append skipComment_skipWhite_append length_skipComment_skipWhite_le
    (Nat.lt_succ_self _) (by simp only [List.length_append]; omega) hlasts

theorem skipAll_append_of_nil (hnil : skipAll cs = []) :
    skipAll (cs ++ '\n' :: more) = skipAll more := by
  simp only [skipAll, skipLines_eq] at hnil ⊢
  exact passLines_append_of_nil skipComment_skipWhite_append length_skipComment_skipWhite_le
    (Nat.lt_succ_self _) (Nat.lt_succ_self _) (Nat.lt_succ_self _) hnil

theorem skipBreak_append (h : skipBreak cs = some rest) (hlasts : Lasts rest) :
    skipBreak (cs ++ '\n' :: more) = some (rest ++ '\n' :: more) := by
  simp only [skipBreak, skipBlankLines_eq, Option.map_eq_some_iff] at h ⊢
  obtain ⟨line, hline, rfl⟩ := h
  refine ⟨line ++ '\n' :: more, ?_, ?_⟩
  · rw [skipWhite_append, newline?_append_of_some hline]
  · exact passLines_append (fun _ => skipWhite_append) (fun _ => length_skipWhite_le)
      (Nat.lt_succ_self _) (by simp only [List.length_append]; omega) hlasts

/-! ## Strings -/

theorem escape?_coded_append {width : Nat} {c : Char} {after : List Char}
    (h : escape?.coded width cs = some (c, rest)) :
    escape?.coded width (cs ++ after) = some (c, rest ++ after) := by
  unfold escape?.coded at h ⊢
  split at h
  · next hwidth =>
      have hwidth' : width ≤ (cs ++ after).length := by
        rw [List.length_append]
        omega
      obtain ⟨d, hd, heq⟩ := Option.map_eq_some_iff.1 h
      cases heq
      rw [if_pos hwidth', List.take_append_of_le_length hwidth,
        List.drop_append_of_le_length hwidth, hd]
      rfl
  · cases h

theorem escape?_append {c : Char} {after : List Char} (h : escape? cs = some (c, rest)) :
    escape? (cs ++ after) = some (c, rest ++ after) := by
  unfold escape? at h
  split at h
  case h_12 => cases h
  case h_9 | h_10 | h_11 => exact escape?_coded_append h
  all_goals
    cases h
    rfl

/-- What follows the backslash of an escape is not the end of a line. -/
theorem skipBreak_eq_none_of_escape? {c : Char} {after : List Char}
    (h : escape? cs = some (c, rest)) : skipBreak (cs ++ after) = none := by
  unfold escape? at h
  split at h
  case h_12 => cases h
  all_goals rfl

theorem basic_goesOnWith : GoesOnWith basic := by
  intro fuel fuel' cs s rest hfuel h more
  fun_induction basic fuel cs generalizing s rest fuel' with
  | case1 | case4 | case6 => cases h
  | case2 fuel cs =>
      obtain ⟨n, rfl⟩ := Nat.exists_eq_add_of_lt hfuel
      cases h
      rfl
  | case3 fuel cs ih =>
      obtain ⟨n, rfl⟩ := Nat.exists_eq_add_of_lt hfuel
      simp only [Option.bind_eq_bind, Option.bind_eq_some_iff, Prod.exists] at h
      obtain ⟨c, rest₁, hescape, t, rest₂, hbasic, heq⟩ := h
      cases heq
      simp [basic, escape?_append hescape, ih rest₁ (Nat.le_add_right fuel n) hbasic]
  | case5 fuel c cs hquote hslash hcontrol ih =>
      obtain ⟨n, rfl⟩ := Nat.exists_eq_add_of_lt hfuel
      obtain ⟨⟨t, rest₁⟩, hbasic, heq⟩ := Option.map_eq_some_iff.1 h
      cases heq
      simp [basic, hcontrol, ih (Nat.le_add_right fuel n) hbasic]

theorem literal_goesOn : GoesOn literal := by
  intro cs s rest h more
  unfold literal at h ⊢
  split at h
  · next q rest₁ hdrop =>
      have htake : (cs.takeWhile (· != '\'')).length ≠ cs.length := fun hlength => by
        have happend := congrArg List.length (List.takeWhile_append_dropWhile
          (p := (· != '\'')) (l := cs))
        rw [hdrop, List.length_append, List.length_cons] at happend
        omega
      rw [List.takeWhile_append, if_neg htake, List.dropWhile_append, hdrop]
      simpa using h
  · cases h

/-! ### Strings of many lines -/

theorem closing?_append {quote : Char} (hquote : quote ≠ '\n') :
    closing? quote (cs ++ '\n' :: more) =
      (closing? quote cs).map fun (own, rest) => (own, rest ++ '\n' :: more) := by
  have htake : (cs ++ '\n' :: more).takeWhile (· == quote) = cs.takeWhile (· == quote) :=
    takeWhile_append_cons (by simpa using hquote.symm)
  have hle : (cs.takeWhile (· == quote)).length ≤ cs.length :=
    (List.takeWhile_prefix _).length_le
  simp only [closing?, htake]
  split
  · rfl
  · rw [Option.map_some, List.drop_append_of_le_length (by omega)]

theorem closing?_of_length_lt {quote : Char} (h : cs.length < 3) : closing? quote cs = none :=
  if_pos (Nat.lt_of_le_of_lt (List.takeWhile_prefix _).length_le h)

theorem manyLines_refusesEnd {quote : Char} {fuel : Nat} : RefusesEnd (manyLines quote fuel) := by
  cases fuel with
  | zero => exact refusesEnd_of_eq_none rfl rfl
  | succ fuel =>
      exact refusesEnd_of_eq_none (by simp [manyLines, closing?_of_length_lt])
        (by simp [manyLines, closing?_of_length_lt])

theorem manyLines_goesOnWith {quote : Char} (hquote : quote ≠ '\n') :
    GoesOnWith (manyLines quote) := by
  intro fuel fuel' cs s rest hfuel h more
  fun_induction manyLines quote fuel cs generalizing s rest fuel' with
  | case1 | case3 | case7 | case8 => cases h
  | case2 fuel cs own rest hclosing =>
      obtain ⟨n, rfl⟩ := Nat.exists_eq_add_of_lt hfuel
      cases h
      unfold manyLines
      rw [closing?_append hquote, hclosing, Option.map_some]
  | case4 fuel c cs hescape line hbreak hclosing ih =>
      obtain ⟨n, rfl⟩ := Nat.exists_eq_add_of_lt hfuel
      unfold manyLines
      rw [closing?_append hquote, hclosing, Option.map_none]
      simp only [List.cons_append, if_pos hescape, skipBreak_append hbreak (manyLines_refusesEnd h)]
      exact ih (Nat.le_add_right fuel n) h
  | case5 fuel c cs hescape hbreak hclosing ih =>
      obtain ⟨n, rfl⟩ := Nat.exists_eq_add_of_lt hfuel
      simp only [Option.bind_eq_bind, Option.bind_eq_some_iff, Prod.exists] at h
      obtain ⟨d, rest₁, hd, t, rest₂, hmany, heq⟩ := h
      cases heq
      unfold manyLines
      rw [closing?_append hquote, hclosing, Option.map_none]
      simp only [List.cons_append, if_pos hescape, skipBreak_eq_none_of_escape? hd,
        escape?_append hd, Option.bind_eq_bind, Option.bind_some,
        ih rest₁ (Nat.le_add_right fuel n) hmany]
      rfl
  | case6 fuel cs hescape hclosing ih =>
      obtain ⟨n, rfl⟩ := Nat.exists_eq_add_of_lt hfuel
      obtain ⟨⟨t, rest₂⟩, hmany, heq⟩ := Option.map_eq_some_iff.1 h
      cases heq
      unfold manyLines
      rw [closing?_append hquote, hclosing, Option.map_none]
      simp only [List.cons_append, if_neg hescape, if_true, ih (Nat.le_add_right fuel n) hmany,
        Option.map_some]
  | case9 fuel c cs hescape hreturn hcontrol hclosing ih =>
      obtain ⟨n, rfl⟩ := Nat.exists_eq_add_of_lt hfuel
      obtain ⟨⟨t, rest₂⟩, hmany, heq⟩ := Option.map_eq_some_iff.1 h
      cases heq
      unfold manyLines
      rw [closing?_append hquote, hclosing, Option.map_none]
      simp only [List.cons_append, if_neg hescape, if_neg hreturn, if_neg hcontrol,
        ih (Nat.le_add_right fuel n) hmany, Option.map_some]

theorem block_goesOn {quote : Char} (hquote : quote ≠ '\n') : GoesOn (block quote) := by
  intro cs s rest h more
  have hline : (newline? (cs ++ '\n' :: more)).getD (cs ++ '\n' :: more) =
      (newline? cs).getD cs ++ '\n' :: more := by
    cases hline : newline? cs with
    | some rest₁ =>
        rw [newline?_append_of_some hline]
        rfl
    | none =>
        have hlasts := manyLines_refusesEnd h
        rw [hline] at hlasts
        rw [newline?_append_of_none hline hlasts]
        rfl
  rw [block, hline]
  exact manyLines_goesOnWith hquote length_succ_le_append h more

/-- Further lines do not make a text begin with a character other than the line end. -/
theorem append_ne_cons {c : Char} (hc : c ≠ '\n') (h : ∀ rest, cs ≠ c :: rest)
    (rest : List Char) : cs ++ '\n' :: more ≠ c :: rest := by
  obtain _ | ⟨d, cs⟩ := cs
  · simp [hc.symm]
  · intro heq
    cases heq
    exact h cs rfl

theorem append_ne_cons_cons {quote : Char} (hquote : quote ≠ '\n')
    (h : ∀ rest, cs ≠ quote :: quote :: rest) (rest : List Char) :
    cs ++ '\n' :: more ≠ quote :: quote :: rest := by
  obtain _ | ⟨c, _ | ⟨d, cs⟩⟩ := cs
  · simp [hquote.symm]
  · simp [hquote.symm]
  · intro heq
    cases heq
    exact h cs rfl

theorem string?_goesOn : GoesOn string? := by
  intro cs s rest h more
  unfold string? at h
  split at h
  · exact (block_goesOn (by decide)).map String.ofList h more
  · exact (block_goesOn (by decide)).map String.ofList h more
  · next cs hthree =>
      rw [List.cons_append, string?.eq_3 _ (append_ne_cons_cons (by decide) hthree)]
      exact basic_goesOnWith.goesOn.map String.ofList h more
  · next cs hthree =>
      rw [List.cons_append, string?.eq_4 _ (append_ne_cons_cons (by decide) hthree)]
      exact literal_goesOn.map String.ofList h more
  · cases h

/-! ## Keys -/

theorem keyPart?_bare {c : Char} (hc : isBareChar c = true) : keyPart? (c :: cs) =
    some (String.ofList ((c :: cs).takeWhile isBareChar), (c :: cs).dropWhile isBareChar) := by
  have hquote (quote : Char) (hquote : isBareChar quote = false) (rest : List Char) :
      c :: cs ≠ quote :: rest := by
    rintro heq
    cases heq
    exact absurd hc (by simp [hquote])
  rw [keyPart?.eq_5 _ (fun _ => hquote _ (by decide) _) (fun _ => hquote _ (by decide) _)
    (hquote _ (by decide)) (hquote _ (by decide)), List.takeWhile_cons_of_pos hc]

theorem keyPart?_goesOn : GoesOn keyPart? := by
  intro cs k rest h more
  unfold keyPart? at h
  split at h
  · cases h
  · cases h
  · next cs hthree =>
      rw [List.cons_append, keyPart?.eq_3 _ (append_ne_cons_cons (by decide) hthree)]
      exact string?_goesOn h more
  · next cs hthree =>
      rw [List.cons_append, keyPart?.eq_4 _ (append_ne_cons_cons (by decide) hthree)]
      exact string?_goesOn h more
  · split at h
    · cases h
    · next hbare =>
        cases h
        obtain _ | ⟨c, cs⟩ := cs
        · exact absurd rfl hbare
        · have hc : isBareChar c = true := by
            cases hc : isBareChar c with
            | false => exact absurd (List.takeWhile_cons_of_neg (by simp [hc])) hbare
            | true => rfl
          rw [List.cons_append, keyPart?_bare hc, ← List.cons_append,
            takeWhile_append_cons (by decide), dropWhile_append_cons (by decide)]

theorem keyParts?_goesOn (n : Nat) : GoesOn (keyParts? n) := by
  induction n with
  | zero => intro cs ks rest h; cases h
  | succ n ih =>
      intro cs ks rest h more
      simp only [keyParts?, Option.bind_eq_bind, Option.bind_eq_some_iff, Prod.exists] at h ⊢
      obtain ⟨k, rest₁, hpart, h⟩ := h
      refine ⟨k, rest₁ ++ '\n' :: more, ?_, ?_⟩
      · rw [skipWhite_append, keyPart?_goesOn hpart more]
      · rw [skipWhite_append]
        split at h
        · next rest₂ hpoint =>
            rw [hpoint]
            exact ih.map (k :: ·) h more
        · next hpoint =>
            cases h
            split
            · next heq => exact absurd heq (append_ne_cons (by decide) hpoint _)
            · rfl

theorem key?_goesOn : GoesOn key? :=
  keyParts?_goesOn depthLimit

theorem assignee?_append {gap : List Char → List Char} {ks : List String}
    (hgap : ∀ ⦃cs⦄, Lasts (gap cs) → gap (cs ++ '\n' :: more) = gap cs ++ '\n' :: more)
    (h : assignee? gap cs = some (ks, rest)) (hlasts : Lasts rest) :
    assignee? gap (cs ++ '\n' :: more) = some (ks, rest ++ '\n' :: more) := by
  simp only [assignee?, Option.bind_eq_bind, Option.bind_eq_some_iff, Prod.exists] at h ⊢
  obtain ⟨ks, rest₁, hkey, h⟩ := h
  refine ⟨ks, rest₁ ++ '\n' :: more, key?_goesOn hkey more, ?_⟩
  split at h
  · next rest₂ hequals =>
      cases h
      have hequals' : Lasts (gap rest₁) := by
        rw [hequals]
        exact lasts_cons (by decide)
      rw [hgap hequals', hequals, ← hgap hlasts]
      rfl
  · cases h

end RouteKeeper.Toml
