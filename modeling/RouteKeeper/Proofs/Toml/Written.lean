import RouteKeeper.Proofs.Toml.Construction

/-!
# What a document says of the keys of its sections

A key of a section can be written below the header of the section, with a dotted key, or between
the braces of the section. Whichever it is, the entries of the document have the value that was
written for the key, and none if no statement touches it.

## Implementation notes

Tables that are still open to additions and arrays of tables are left out where it is said which
statement wrote a value: they grow by many statements.
-/

namespace RouteKeeper.Toml

variable {sec key : String} {v : Value} {st : Statement} {es es' : Entries}

/-- The statement writes the value for a key of a section. -/
def Statement.Writes (st : Statement) (sec key : String) (v : Value) : Prop :=
  st = .assign [sec, key] v ∨
    ∃ es : Entries, st = .assign [sec] (.table .inline es) ∧ es.get? key = some v

/-- The statement says something of a key of a section or of what is below the key. -/
def Statement.Touches (st : Statement) (sec key : String) : Prop :=
  [sec, key] <+: st.path ∨
    ∃ es : Entries, st = .assign [sec] (.table .inline es) ∧ es.get? key ≠ none

/-- The statement leaves a section a table: it makes it no array of tables, and gives it no value
but a table between braces. -/
def Statement.KeepsTable (st : Statement) (sec : String) : Prop :=
  st ≠ .element [sec] ∧ ∀ v, st = .assign [sec] v → ∃ es, v = .table .inline es

/-- Tables that are open to additions, and arrays of tables. -/
def Value.IsOpen : Value → Prop
  | .table o _ => o ≠ .inline
  | .tables _ => True
  | _ => False

/-- A section is a table or is missing. -/
def IsSection (slot : Option Value) : Prop :=
  ∀ v ∈ slot, ∃ o inner, v = .table o inner

/-- The entries of a section; a missing one has none. -/
def inside : Option Value → Entries
  | some (.table _ inner) => inner
  | _ => []

/-! ## One step -/

theorem Turns.within {leaf : Leaf} {k : String} {rest : List String} {before : Option Value}
    (h : Turns leaf (k :: rest) before v) (hbefore : IsSection before) :
    ∃ o inner w, v = .table o inner ∧ Puts k w (inside before) inner ∧
      Turns leaf rest ((inside before).get? k) w := by
  cases h with
  | makes ho hputs hturns => exact ⟨_, _, _, rfl, hputs, hturns⟩
  | passes ho hputs hturns => exact ⟨_, _, _, rfl, hputs, hturns⟩
  | last =>
      obtain ⟨o, inner, heq⟩ := hbefore _ rfl
      cases heq

/-- What a statement can do to a section: nothing, give it as a whole, or go on below it. -/
inductive Statement.Changes (st : Statement) (sec : String) (inner inner' : Entries) : Prop where
  | stays (hst : st.path.head? ≠ some sec ∨ st = .header [sec]) (h : inner' = inner)
  | whole (hst : st = .assign [sec] (.table .inline inner')) (h : inner = [])
  | below {k : String} {rest : List String} {w : Value} (hst : st.path = sec :: k :: rest)
      (hputs : Puts k w inner inner') (h : Turns st.leaf rest (inner.get? k) w)

theorem Turns.section_end {before : Option Value} (hpath : st.path = [sec])
    (h : Turns st.leaf [] before v) (hst : st.KeepsTable sec) :
    IsSection (some v) ∧ st.Changes sec (inside before) (inside (some v)) := by
  cases st with
  | header path =>
      cases hpath
      cases h with
      | opens => exact ⟨by rintro _ ⟨⟩; exact ⟨_, _, rfl⟩, .stays (.inr rfl) rfl⟩
      | names => exact ⟨by rintro _ ⟨⟩; exact ⟨_, _, rfl⟩, .stays (.inr rfl) rfl⟩
  | element path =>
      cases hpath
      exact absurd rfl hst.1
  | assign path w =>
      cases hpath
      obtain ⟨given, rfl⟩ := hst.2 w rfl
      cases h
      exact ⟨by rintro _ ⟨⟩; exact ⟨_, _, rfl⟩, .whole rfl rfl⟩

theorem Enters.changes (h : Enters st.leaf st.path es es') (hsection : IsSection (es.get? sec))
    (hst : st.KeepsTable sec) :
    IsSection (es'.get? sec) ∧ st.Changes sec (inside (es.get? sec)) (inside (es'.get? sec)) := by
  obtain ⟨k, rest, v, hpath, hputs, hturns⟩ := h
  by_cases hk : sec = k
  · subst hk
    rw [hputs, if_pos rfl]
    obtain _ | ⟨k, rest⟩ := rest
    · exact hturns.section_end hpath hst
    · obtain ⟨o, inner, w, rfl, hinner, hw⟩ := hturns.within hsection
      exact ⟨by rintro _ ⟨⟩; exact ⟨_, _, rfl⟩, .below hpath hinner hw⟩
  · rw [hputs, if_neg hk]
    exact ⟨hsection, .stays (.inl (by simp [hpath, Ne.symm hk])) rfl⟩

theorem touches_of_writes (h : st.Writes sec key v) : st.Touches sec key := by
  obtain rfl | ⟨es, rfl, hget⟩ := h
  · exact .inl (List.prefix_refl _)
  · exact .inr ⟨es, rfl, by simp [hget]⟩

theorem not_touches_of_stays (hst : st.path.head? ≠ some sec ∨ st = .header [sec]) :
    ¬ st.Touches sec key := by
  rintro (hbegins | ⟨es, rfl, -⟩)
  · obtain ⟨rest, hrest⟩ := hbegins
    obtain hhead | rfl := hst
    · exact hhead (by rw [← hrest]; rfl)
    · cases hrest
  · obtain hhead | heq := hst
    · exact hhead rfl
    · cases heq

theorem touches_whole_iff :
    (Statement.assign [sec] (.table .inline es)).Touches sec key ↔ es.get? key ≠ none := by
  constructor
  · rintro (hbegins | ⟨es, heq, hget⟩)
    · have hle := hbegins.length_le
      simp [Statement.path] at hle
    · cases heq
      exact hget
  · exact fun h => .inr ⟨es, rfl, h⟩

theorem writes_whole_iff :
    (Statement.assign [sec] (.table .inline es)).Writes sec key v ↔ es.get? key = some v := by
  constructor
  · rintro (heq | ⟨es, heq, hget⟩)
    · cases heq
    · cases heq
      exact hget
  · exact fun h => .inr ⟨es, rfl, h⟩

theorem touches_below_iff {k : String} {rest : List String} (hst : st.path = sec :: k :: rest) :
    st.Touches sec key ↔ key = k := by
  constructor
  · rintro (hbegins | ⟨es, rfl, -⟩)
    · rw [hst] at hbegins
      simpa using hbegins
    · cases hst
  · rintro rfl
    exact .inl (by rw [hst]; simp)

theorem writes_below_iff {k : String} {rest : List String} (hst : st.path = sec :: k :: rest) :
    st.Writes sec key v ↔ key = k ∧ st.leaf = .value v ∧ rest = [] := by
  constructor
  · rintro (rfl | ⟨es, rfl, -⟩)
    · cases hst
      exact ⟨rfl, rfl, rfl⟩
    · cases hst
  · rintro ⟨rfl, hleaf, rfl⟩
    cases st <;> cases hst <;> cases hleaf
    exact .inl rfl

/-- A step gives a key without one a value, or it leaves something open where nothing or something
open was before. -/
theorem Turns.given_or_open {leaf : Leaf} {rest : List String} {before : Option Value} {w : Value}
    (h : Turns leaf rest before w) :
    (before = none ∧ leaf = .value w ∧ rest = []) ∨
      (w.IsOpen ∧ (∀ b ∈ before, b.IsOpen) ∧ ∀ v, ¬ (leaf = .value v ∧ rest = [])) := by
  cases h with
  | gives => exact .inl ⟨rfl, rfl, rfl⟩
  | opens | names | starts | adds | last => right; simp [Value.IsOpen]
  | makes ho | passes ho => right; simp [Value.IsOpen, ho]

/-- A value that is not open stays as it is, and one statement gives it. -/
theorem Turns.eq_iff {leaf : Leaf} {rest : List String} {before : Option Value} {w : Value}
    (h : Turns leaf rest before w) (hv : ¬ v.IsOpen) :
    w = v ↔ before = some v ∨ leaf = .value v ∧ rest = [] := by
  obtain ⟨hbefore, hleaf, hrest⟩ | ⟨hw, hbefore, hleaf⟩ := h.given_or_open
  · simp [hbefore, hleaf, hrest]
  · have hne : w ≠ v := fun heq => hv (heq ▸ hw)
    have hnot : before ≠ some v := fun heq => hv (hbefore v heq)
    simp only [hne, hnot, hleaf v, or_self]

theorem Statement.Changes.get?_eq_none_iff (h : st.Changes sec es es') :
    es'.get? key = none ↔ es.get? key = none ∧ ¬ st.Touches sec key := by
  cases h with
  | stays hst h => simp [h, not_touches_of_stays hst]
  | whole hst h => simp [hst, h, touches_whole_iff, Entries.get?_nil]
  | below hst hputs h =>
      rw [hputs, touches_below_iff hst]
      split
      · next hkey => simp [hkey]
      · next hkey => simp [hkey]

theorem Statement.Changes.get?_eq_some_iff (h : st.Changes sec es es') (hv : ¬ v.IsOpen) :
    es'.get? key = some v ↔ es.get? key = some v ∨ st.Writes sec key v := by
  cases h with
  | stays hst h =>
      simp [h, mt touches_of_writes (not_touches_of_stays hst)]
  | whole hst h => simp [hst, h, writes_whole_iff, Entries.get?_nil]
  | below hst hputs h =>
      rw [hputs, writes_below_iff hst]
      split
      · next hkey => simp [hkey, h.eq_iff hv]
      · next hkey => simp [hkey]

/-! ## Whole documents -/

variable {made : List Statement}

/-- The section has the value that was written for a key, if it is not open to additions. -/
theorem Grows.get?_eq_some_iff (h : Grows made es es') (hsection : IsSection (es.get? sec))
    (hmade : ∀ st ∈ made, st.KeepsTable sec) (hv : ¬ v.IsOpen) :
    (inside (es'.get? sec)).get? key = some v ↔
      (inside (es.get? sec)).get? key = some v ∨ ∃ st ∈ made, st.Writes sec key v := by
  induction h with
  | nil => simp
  | cons h hrest ih =>
      obtain ⟨hst, hsts⟩ := List.forall_mem_cons.1 hmade
      obtain ⟨hsection', hchanges⟩ := h.changes hsection hst
      rw [ih hsection' hsts, hchanges.get?_eq_some_iff hv]
      simp [or_assoc]

/-- The section lacks a key that no statement touches. -/
theorem Grows.get?_eq_none_iff (h : Grows made es es') (hsection : IsSection (es.get? sec))
    (hmade : ∀ st ∈ made, st.KeepsTable sec) :
    (inside (es'.get? sec)).get? key = none ↔
      (inside (es.get? sec)).get? key = none ∧ ∀ st ∈ made, ¬ st.Touches sec key := by
  induction h with
  | nil => simp
  | cons h hrest ih =>
      obtain ⟨hst, hsts⟩ := List.forall_mem_cons.1 hmade
      obtain ⟨hsection', hchanges⟩ := h.changes hsection hst
      rw [ih hsection' hsts, hchanges.get?_eq_none_iff]
      simp [and_assoc]

theorem Grows.isSection (h : Grows made es es') (hsection : IsSection (es.get? sec))
    (hmade : ∀ st ∈ made, st.KeepsTable sec) : IsSection (es'.get? sec) := by
  induction h with
  | nil => exact hsection
  | cons h hrest ih =>
      obtain ⟨hst, hsts⟩ := List.forall_mem_cons.1 hmade
      exact ih (h.changes hsection hst).1 hsts

/-- Entries lack a section that no path begins with. -/
theorem Grows.lacks (h : Grows made es es') (hnone : es.get? sec = none)
    (hmade : ∀ st ∈ made, st.path.head? ≠ some sec) : es'.get? sec = none := by
  induction h with
  | nil => exact hnone
  | cons h hrest ih =>
      obtain ⟨k, rest, v, hpath, hputs, -⟩ := h
      have hk : sec ≠ k := by
        rintro rfl
        exact hmade _ List.mem_cons_self (by simp [hpath])
      exact ih (by rw [hputs, if_neg hk, hnone]) fun st hst => hmade st (List.mem_cons_of_mem _ hst)

end RouteKeeper.Toml
