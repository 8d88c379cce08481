import RouteKeeper.Proofs.Toml.Continuation

/-!
# Adding lines to a document

The readers of values and statements take from a text with further lines what they take from the
text alone. So the statements of a document to which lines are added are its own, and behind them
those of the added lines.

## Implementation notes

How many statements a text gives does not depend on the fuel, as long as this is greater than
their number. So the texts and their sum may each be read with the fuel that suits them.
-/

namespace RouteKeeper.Toml

variable {cs rest more : List Char}

/-! ## Values -/

section Runs

variable {α : Type} {one : List Char → Option (α × List Char)} {fuel fuel' : Nat}

/-- Reads what another reader reads, with commas between, up to a closing character. -/
def separated (close : Char) (one : List Char → Option (α × List Char)) :
    Nat → List Char → Option (List α × List Char)
  | 0, _ => none
  | fuel + 1, cs =>
    if (skipAll cs).head? = some close then some ([], (skipAll cs).tail)
    else do
      let (x, rest) ← one (skipAll cs)
      if (skipAll rest).head? = some ',' then
        (separated close one fuel (skipAll rest).tail).map fun (xs, rest) => (x :: xs, rest)
      else if (skipAll rest).head? = some close then some ([x], (skipAll rest).tail)
      else none

theorem head?_ne_some {c : Char} (h : ∀ rest, cs = c :: rest → False) : cs.head? ≠ some c :=
  fun hhead => (List.head?_eq_some_iff.1 hhead).elim h

theorem items_eq (value : List Char → Option (Value × List Char)) :
    items value = separated ']' value := by
  funext fuel cs
  induction fuel generalizing cs with
  | zero => rfl
  | succ fuel ih =>
      simp only [items, separated]
      split
      · next hclose => simp [hclose]
      · next hclose =>
          rw [if_neg (head?_ne_some hclose)]
          congr 1
          funext ⟨v, rest⟩
          split
          · next hcomma => simp [hcomma, ih]
          · next hend => simp [hend]
          · next hcomma hend =>
              rw [if_neg (head?_ne_some hcomma), if_neg (head?_ne_some hend)]

/-- Reads one of the assignments between braces. -/
def assignment? (value : List Char → Option (Value × List Char)) (cs : List Char) :
    Option ((List String × Value) × List Char) := do
  let (ks, rest) ← assignee? skipAll cs
  let (v, rest) ← value rest
  return ((ks, v), rest)

theorem assignments_eq (value : List Char → Option (Value × List Char)) :
    assignments value = separated '\x7d' (assignment? value) := by
  funext fuel cs
  induction fuel generalizing cs with
  | zero => rfl
  | succ fuel ih =>
      simp only [assignments, separated]
      split
      · next hclose => simp [hclose]
      · next hclose =>
          rw [if_neg (head?_ne_some hclose)]
          simp only [assignment?, Option.bind_eq_bind, Option.bind_assoc]
          congr 1
          funext ⟨ks, rest⟩
          congr 1
          funext ⟨v, rest⟩
          split
          · next hcomma => simp [hcomma, ih]
          · next hend => simp [hend]
          · next hcomma hend =>
              simp [head?_ne_some hcomma, head?_ne_some hend]

theorem lasts_of_head? {c : Char} (hc : c ≠ '\r') (h : cs.head? = some c) : Lasts cs := by
  obtain ⟨rest, rfl⟩ := List.head?_eq_some_iff.1 h
  exact lasts_cons hc

theorem Lasts.head?_append (hlasts : Lasts cs) : (cs ++ more).head? = cs.head? := by
  obtain _ | ⟨c, cs⟩ := cs
  · exact absurd rfl hlasts.1
  · rfl

theorem Lasts.tail_append (hlasts : Lasts cs) : (cs ++ more).tail = cs.tail ++ more :=
  List.tail_append_of_ne_nil hlasts.1

theorem separated_goesOnWith {close : Char} (hclose : close ≠ '\r') (hone : GoesOn one)
    (hrefuses : RefusesEnd one) : GoesOnWith (separated close one) := by
  intro fuel fuel' cs xs rest hfuel h more
  induction fuel generalizing cs xs rest fuel' with
  | zero => cases h
  | succ fuel ih =>
      obtain ⟨n, rfl⟩ := Nat.exists_eq_add_of_lt hfuel
      unfold separated at h ⊢
      split at h
      · next hend =>
          have hlasts := lasts_of_head? hclose hend
          cases h
          rw [skipAll_append hlasts, hlasts.head?_append, if_pos hend, hlasts.tail_append]
      · next hend =>
          simp only [Option.bind_eq_bind, Option.bind_eq_some_iff, Prod.exists] at h
          obtain ⟨x, rest₁, hx, h⟩ := h
          have hlasts := hrefuses hx
          rw [skipAll_append hlasts, hlasts.head?_append, if_neg hend, hone hx more]
          simp only [Option.bind_eq_bind, Option.bind_some]
          split at h
          · next hcomma =>
              have hlasts := lasts_of_head? (by decide) hcomma
              obtain ⟨⟨ys, rest₂⟩, hys, heq⟩ := Option.map_eq_some_iff.1 h
              cases heq
              rw [skipAll_append hlasts, hlasts.head?_append, if_pos hcomma, hlasts.tail_append,
                ih (Nat.le_add_right fuel n) hys]
              rfl
          · next hcomma =>
              split at h
              · next hend =>
                  have hlasts := lasts_of_head? hclose hend
                  cases h
                  rw [skipAll_append hlasts, hlasts.head?_append, if_neg hcomma, if_pos hend,
                    hlasts.tail_append]
              · cases h

end Runs

theorem flat_refusesEnd : RefusesEnd flat :=
  refusesEnd_of_eq_none rfl rfl

theorem value_refusesEnd (depth : Nat) : RefusesEnd (value depth) := by
  cases depth with
  | zero => exact flat_refusesEnd
  | succ depth => exact refusesEnd_of_eq_none rfl rfl

theorem assignment?_refusesEnd {value : List Char → Option (Value × List Char)} :
    RefusesEnd (assignment? value) :=
  refusesEnd_of_eq_none rfl rfl

theorem assignment?_goesOn {value : List Char → Option (Value × List Char)}
    (hvalue : GoesOn value) (hrefuses : RefusesEnd value) : GoesOn (assignment? value) := by
  intro cs x rest h more
  simp only [assignment?, Option.bind_eq_bind, Option.bind_eq_some_iff, Prod.exists] at h ⊢
  obtain ⟨ks, rest₁, hks, v, rest₂, hv, heq⟩ := h
  cases heq
  exact ⟨ks, _, assignee?_append (fun _ => skipAll_append) hks (hrefuses hv), v, _,
    hvalue hv more, rfl⟩

theorem scalarRun_append :
    scalarRun (cs ++ '\n' :: more) = ((scalarRun cs).1, (scalarRun cs).2 ++ '\n' :: more) := by
  have hscalar : isScalarChar '\n' = false := by decide
  unfold scalarRun
  simp only [takeWhile_append_cons hscalar, dropWhile_append_cons hscalar]
  generalize cs.takeWhile isScalarChar = run
  generalize cs.dropWhile isScalarChar = rest
  match rest with
  | [] => rfl
  | [c] =>
    by_cases hc : c = ' '
    · subst hc
      simp
    · simp [hc]
  | c :: d :: rest =>
    by_cases hc : c = ' '
    · subst hc
      simp only [List.cons_append, List.tail_cons]
      rw [← List.cons_append, takeWhile_append_cons hscalar, dropWhile_append_cons hscalar]
      split <;> rfl
    · simp [hc]

theorem flat_goesOn : GoesOn flat := by
  intro cs v rest h more
  unfold flat at h
  split at h
  · exact string?_goesOn.map Value.string h more
  · exact string?_goesOn.map Value.string h more
  · next hdouble hsingle =>
      have h : (scalar? (scalarRun cs).1).map (·, (scalarRun cs).2) = some (v, rest) := h
      obtain ⟨w, hw, heq⟩ := Option.map_eq_some_iff.1 h
      cases heq
      rw [flat.eq_3 _ (append_ne_cons (by decide) hdouble) (append_ne_cons (by decide) hsingle),
        scalarRun_append]
      simp only [hw, Option.map_some]

theorem items_goesOnWith {value : List Char → Option (Value × List Char)} (hvalue : GoesOn value)
    (hrefuses : RefusesEnd value) : GoesOnWith (items value) := by
  rw [items_eq]
  exact separated_goesOnWith (by decide) hvalue hrefuses

theorem assignments_goesOnWith {value : List Char → Option (Value × List Char)}
    (hvalue : GoesOn value) (hrefuses : RefusesEnd value) : GoesOnWith (assignments value) := by
  rw [assignments_eq]
  exact separated_goesOnWith (by decide) (assignment?_goesOn hvalue hrefuses)
    assignment?_refusesEnd

theorem value_goesOn (depth : Nat) : GoesOn (value depth) := by
  induction depth with
  | zero => exact flat_goesOn
  | succ depth ih =>
      have hrefuses := value_refusesEnd depth
      intro cs v rest h more
      unfold value at h
      split at h
      · exact (items_goesOnWith ih hrefuses).goesOn.map Value.array h more
      · next cs =>
          simp only [Option.bind_eq_bind, Option.bind_eq_some_iff, Prod.exists] at h
          obtain ⟨es, rest₁, hes, v, hv, heq⟩ := h
          cases heq
          rw [List.cons_append, value,
            assignments_goesOnWith ih hrefuses length_succ_le_append hes more]
          simp [hv]
      · next hbracket hbrace =>
          rw [value.eq_4 _ _ (append_ne_cons (by decide) hbracket)
            (append_ne_cons (by decide) hbrace)]
          exact flat_goesOn h more

/-! ## Documents -/

theorem headerPath?_goesOn (close : List Char) : GoesOn (headerPath? close) := by
  intro cs ks rest h more
  simp only [headerPath?, Option.bind_eq_bind, Option.bind_eq_some_iff, Prod.exists] at h ⊢
  obtain ⟨ks, rest₁, hkey, h⟩ := h
  refine ⟨ks, _, key?_goesOn hkey more, ?_⟩
  split at h
  · next hclose =>
      cases h
      have hbegins := List.isPrefixOf_iff_prefix.1 hclose
      rw [if_pos (List.isPrefixOf_iff_prefix.2 (hbegins.trans (List.prefix_append _ _))),
        List.drop_append_of_le_length hbegins.length_le]
  · cases h

theorem statement?_refusesEnd : RefusesEnd statement? :=
  refusesEnd_of_eq_none rfl rfl

theorem statement?_goesOn : GoesOn statement? := by
  intro cs st rest h more
  unfold statement? at h
  split at h
  · exact (headerPath?_goesOn _).map Statement.element h more
  · next cs hbracket =>
      rw [List.cons_append, statement?.eq_2 _ (append_ne_cons (by decide) hbracket)]
      exact (headerPath?_goesOn _).map Statement.header h more
  · next hbrackets hbracket =>
      simp only [Option.bind_eq_bind, Option.bind_eq_some_iff, Prod.exists] at h
      obtain ⟨path, rest₁, hassignee, v, rest₂, hv, heq⟩ := h
      cases heq
      rw [statement?.eq_3 _ (fun _ => append_ne_cons (by decide) hbracket _)
        (append_ne_cons (by decide) hbracket),
        assignee?_append (fun _ _ => skipWhite_append) hassignee (value_refusesEnd _ hv)]
      simp [value_goesOn _ hv more]

/-- The end of the last line takes the line end in front of the further lines. -/
theorem lineEnd?_append (h : lineEnd? cs = some rest) (more : List Char) :
    lineEnd? (cs ++ '\n' :: more) = some (rest ++ '\n' :: more) ∨
      rest = [] ∧ lineEnd? (cs ++ '\n' :: more) = some more := by
  unfold lineEnd? at h ⊢
  rw [skipWhite_append, skipComment_append]
  split at h
  · next hend =>
      cases h
      rw [hend]
      exact .inr ⟨rfl, rfl⟩
  · refine .inl ?_
    split
    · next heq => simp at heq
    · exact newline?_append_of_some h

/-- The text consists of the statements, each with the end of its line. -/
inductive ConsistsOf : List Char → List Statement → Prop where
  | nil {cs : List Char} (h : skipAll cs = []) : ConsistsOf cs []
  | cons {cs rest₁ rest₂ : List Char} {st : Statement} {sts : List Statement}
      (hst : statement? (skipAll cs) = some (st, rest₁)) (hline : lineEnd? rest₁ = some rest₂)
      (h : ConsistsOf rest₂ sts) : ConsistsOf cs (st :: sts)

/-- Reading takes one more fuel than there are statements, to find the end. -/
theorem statements_eq_some_iff {fuel : Nat} {sts : List Statement} :
    statements fuel cs = some sts ↔ ConsistsOf cs sts ∧ sts.length < fuel := by
  induction fuel generalizing cs sts with
  | zero => simp [statements]
  | succ fuel ih =>
      rw [statements]
      split
      · next hend =>
          constructor
          · rintro ⟨⟩
            exact ⟨.nil hend, Nat.succ_pos fuel⟩
          · rintro ⟨h, -⟩
            cases h with
            | nil => rfl
            | cons hst => exact absurd hend (statement?_refusesEnd hst).1
      · next hend =>
          simp only [Option.bind_eq_bind, Option.bind_eq_some_iff, Option.pure_def,
            Option.some.injEq, Prod.exists, ih]
          constructor
          · rintro ⟨st, rest₁, hst, rest₂, hline, sts, ⟨hsts, hlength⟩, rfl⟩
            exact ⟨.cons hst hline hsts, Nat.succ_lt_succ hlength⟩
          · rintro ⟨h, hlength⟩
            cases h with
            | nil h => exact absurd h hend
            | cons hst hline hsts =>
                exact ⟨_, _, hst, _, hline, _, ⟨hsts, Nat.lt_of_succ_lt_succ hlength⟩, rfl⟩

theorem ConsistsOf.of_skipAll_eq {cs' : List Char} {sts : List Statement} (h : ConsistsOf cs sts)
    (hskip : skipAll cs' = skipAll cs) : ConsistsOf cs' sts := by
  cases h with
  | nil h => exact .nil (hskip.trans h)
  | cons hst hline h => exact .cons (hskip ▸ hst) hline h

/-- The statements of further lines come behind those of the text. -/
theorem ConsistsOf.append {sts sts₂ : List Statement} (h : ConsistsOf cs sts)
    (hmore : ConsistsOf more sts₂) : ConsistsOf (cs ++ '\n' :: more) (sts ++ sts₂) := by
  induction h with
  | nil h => exact hmore.of_skipAll_eq (skipAll_append_of_nil h)
  | @cons cs rest₁ rest₂ st sts hst hline h ih =>
      have hskip : skipAll (cs ++ '\n' :: more) = skipAll cs ++ '\n' :: more :=
        skipAll_append (statement?_refusesEnd hst)
      have hst' : statement? (skipAll (cs ++ '\n' :: more)) = some (st, rest₁ ++ '\n' :: more) := by
        rw [hskip, statement?_goesOn hst more]
      obtain hgoes | ⟨rfl, hends⟩ := lineEnd?_append hline more
      · exact .cons hst' hgoes ih
      · -- Nothing comes behind the last line, so the further lines give all that is left.
        cases h with
        | nil => exact .cons hst' hends hmore
        | cons hst => exact absurd rfl (statement?_refusesEnd hst).1

/-! ## A header on a line of its own -/

/-- The name may stand in a key without quotes. -/
def IsBare (name : String) : Prop :=
  name ≠ "" ∧ ∀ c ∈ name.toList, isBareChar c = true

instance : DecidablePred IsBare := fun name =>
  decidable_of_iff (name ≠ "" ∧ name.toList.all isBareChar = true) (by simp [IsBare])

theorem ne_of_isBareChar {c d : Char} (hc : isBareChar c = true) (hd : isBareChar d = false) :
    c ≠ d := by
  rintro rfl
  rw [hc] at hd
  cases hd

theorem IsBare.exists_cons {name : String} (hbare : IsBare name) :
    ∃ c cs, name.toList = c :: cs ∧ isBareChar c = true := by
  obtain ⟨c, cs, hcs⟩ := List.exists_cons_of_ne_nil (show name.toList ≠ [] by simpa using hbare.1)
  exact ⟨c, cs, hcs, hbare.2 c (by simp [hcs])⟩

theorem skipWhite_bare {c : Char} (hc : isBareChar c = true) :
    skipWhite (c :: cs) = c :: cs := by
  refine List.dropWhile_cons_of_neg ?_
  have hblank := ne_of_isBareChar hc (show isBareChar ' ' = false by decide)
  have htab := ne_of_isBareChar hc (show isBareChar '\t' = false by decide)
  simp [isWhite, hblank, htab]

theorem key?_bare {name : String} (hbare : IsBare name) :
    key? (name.toList ++ ']' :: rest) = some ([name], ']' :: rest) := by
  have hpart : keyPart? (skipWhite (name.toList ++ ']' :: rest)) = some (name, ']' :: rest) := by
    obtain ⟨c, cs, hcs, hc⟩ := hbare.exists_cons
    rw [hcs, List.cons_append, skipWhite_bare hc, keyPart?_bare hc, ← List.cons_append, ← hcs,
      List.takeWhile_append_of_pos hbare.2, List.dropWhile_append_of_pos hbare.2]
    simp [isBareChar]
  rw [key?, depthLimit, keyParts?, hpart]
  rfl

theorem statement?_header {name : String} (hbare : IsBare name) :
    statement? ('[' :: name.toList ++ ']' :: rest) = some (.header [name], rest) := by
  have hbracket (cs : List Char) : name.toList ++ ']' :: rest ≠ '[' :: cs := by
    obtain ⟨d, ds, hds, hd⟩ := hbare.exists_cons
    rw [hds]
    intro heq
    cases heq
    exact absurd hd (by decide)
  rw [List.cons_append, statement?.eq_2 _ hbracket, headerPath?, key?_bare hbare]
  rfl

theorem consistsOf_header {name : String} (hbare : IsBare name) :
    ConsistsOf ('[' :: name.toList ++ ']' :: ['\n']) [.header [name]] :=
  .cons (statement?_header hbare) rfl (.nil rfl)

/-! ## Texts -/

/-- Passes over a byte order mark. -/
def skipMark : List Char → List Char
  | '\ufeff' :: rest => rest
  | cs => cs

theorem skipMark_append : skipMark (cs ++ '\n' :: more) = skipMark cs ++ '\n' :: more := by
  obtain _ | ⟨c, cs⟩ := cs
  · rfl
  · by_cases hc : c = '\ufeff'
    · subst hc
      rfl
    · simp [skipMark, hc]

/-- The statements of a whole text; a byte order mark in front is passed over. -/
def statements? (s : String) : Option (List Statement) :=
  statements ((skipMark s.toList).length + 1) (skipMark s.toList)

theorem parse_eq (s : String) : parse s = (statements? s).bind ofStatements :=
  rfl

theorem statements?_eq_some_iff {s : String} {sts : List Statement} :
    statements? s = some sts ↔ ConsistsOf (skipMark s.toList) sts ∧
      sts.length ≤ (skipMark s.toList).length := by
  rw [statements?, statements_eq_some_iff, Nat.lt_succ_iff]

/-- A header on a line of its own may stand behind any text. -/
theorem statements?_append_header {s name : String} {sts : List Statement}
    (h : statements? s = some sts) (hbare : IsBare name) :
    statements? (s ++ ("\n[" ++ name ++ "]\n")) = some (sts ++ [.header [name]]) := by
  have hline : ("\n[" ++ name ++ "]\n").toList =
      '\n' :: ('[' :: name.toList ++ ']' :: ['\n']) := by
    simp
  rw [statements?_eq_some_iff] at h ⊢
  rw [String.toList_append, hline, skipMark_append]
  refine ⟨h.1.append (consistsOf_header hbare), ?_⟩
  have hlength := h.2
  simp only [List.length_append, List.length_cons, List.length_nil]
  omega

end RouteKeeper.Toml
