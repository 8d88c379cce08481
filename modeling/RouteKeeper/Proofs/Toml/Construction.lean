import RouteKeeper.Toml.Document

/-!
# What statements make of a document

Each statement puts something at the end of a path from the root. What it may find on the way and
at the end, and what it leaves there, is told once; the run of all statements of a document is the
run of these steps.

## Implementation notes

The path of an assignment begins in the open table, so a run of statements is first written with
paths from the root. The order of the statements then matters only for whether they make a document,
and no longer for what they say.
-/

namespace RouteKeeper.Toml

variable {k : String} {v : Value} {es es' : Entries}

/-! ## Entries -/

/-- One key has a value, the others have theirs as before. -/
def Puts (k : String) (v : Value) (es es' : Entries) : Prop :=
  ∀ k', es'.get? k' = if k' = k then some v else es.get? k'

theorem Entries.get?_nil (k : String) : Entries.get? [] k = none :=
  rfl

theorem Entries.get?_cons (e : String × Value) (k : String) :
    Entries.get? (e :: es) k = if e.1 = k then some e.2 else es.get? k := by
  by_cases h : e.1 = k <;> simp [Entries.get?, h]

theorem Entries.get?_append (es₁ es₂ : Entries) (k : String) :
    Entries.get? (es₁ ++ es₂) k = (es₁.get? k).or (es₂.get? k) := by
  induction es₁ with
  | nil => rfl
  | cons e es₁ ih =>
      rw [List.cons_append, get?_cons, get?_cons, ih]
      split <;> rfl

theorem Entries.add?_eq_some_iff :
    es.add? k v = some es' ↔ es.get? k = none ∧ es' = es ++ [(k, v)] := by
  unfold Entries.add?
  split
  · next h => simp [Option.isSome_iff_ne_none.1 h]
  · next h => simp [Option.not_isSome_iff_eq_none.1 h, eq_comm]

theorem Entries.add?_puts (h : es.add? k v = some es') : es.get? k = none ∧ Puts k v es es' := by
  obtain ⟨hnone, rfl⟩ := Entries.add?_eq_some_iff.1 h
  refine ⟨hnone, fun k' => ?_⟩
  rw [Entries.get?_append, Entries.get?_cons, Entries.get?_nil]
  by_cases hk : k' = k
  · subst hk
    simp [hnone]
  · simp [hk, Ne.symm hk]

theorem Entries.get?_set (es : Entries) (k k' : String) (v : Value) :
    (es.set k v).get? k' = if k' = k then (es.get? k').map fun _ => v else es.get? k' := by
  induction es with
  | nil => simp [Entries.set, Entries.get?_nil]
  | cons e es ih =>
      have hset : Entries.set (e :: es) k v =
          (if e.1 = k then (k, v) else e) :: Entries.set es k v := by
        simp [Entries.set]
      rw [hset, Entries.get?_cons, Entries.get?_cons, ih]
      by_cases he : e.1 = k
      · subst he
        by_cases hk : k' = e.1
        · simp [hk]
        · simp [hk, Ne.symm hk]
      · by_cases hk : k' = k
        · subst hk
          simp [he]
        · simp [he, hk]

theorem Entries.set_puts {w : Value} (h : es.get? k = some w) : Puts k v es (es.set k v) := by
  intro k'
  rw [Entries.get?_set]
  by_cases hk : k' = k
  · subst hk
    simp [h]
  · simp [hk]

/-! ## Steps -/

/-- The path that a statement names. -/
def Statement.path : Statement → List String
  | .header path | .element path | .assign path _ => path

/-- What stands at the end of the path of a statement. -/
inductive Leaf where
  | table
  | element
  | value (v : Value)

/-- What a statement puts at the end of its path. -/
def Statement.leaf : Statement → Leaf
  | .header _ => .table
  | .element _ => .element
  | .assign _ v => .value v

/-- Putting a leaf at the end of what is left of a path turns what stands at a key into a value.
No step changes a value other than a table, or a table between braces. -/
inductive Turns : Leaf → List String → Option Value → Value → Prop where
  | opens : Turns .table [] none (.table .header [])
  | names {es : Entries} : Turns .table [] (some (.table .path es)) (.table .header es)
  | starts {items : List Value} : Turns .element [] none (.tables items)
  | adds {items items' : List Value} : Turns .element [] (some (.tables items)) (.tables items')
  | gives {v : Value} : Turns (.value v) [] none v
  | makes {leaf : Leaf} {k : String} {rest : List String} {v : Value} {o : Origin}
      {inner : Entries} (ho : o ≠ .inline) (hputs : Puts k v [] inner)
      (h : Turns leaf rest none v) : Turns leaf (k :: rest) none (.table o inner)
  | passes {leaf : Leaf} {k : String} {rest : List String} {v : Value} {o : Origin}
      {inner inner' : Entries} (ho : o ≠ .inline) (hputs : Puts k v inner inner')
      (h : Turns leaf rest (inner.get? k) v) :
      Turns leaf (k :: rest) (some (.table o inner)) (.table o inner')
  | last {leaf : Leaf} {k : String} {rest : List String} {items items' : List Value} :
      Turns leaf (k :: rest) (some (.tables items)) (.tables items')

/-- Putting a leaf at the end of a path changes entries at the first key of the path only. -/
def Enters (leaf : Leaf) (path : List String) (es es' : Entries) : Prop :=
  ∃ k rest v, path = k :: rest ∧ Puts k v es es' ∧ Turns leaf rest (es.get? k) v

theorem enters_end {leaf : Leaf} (hputs : Puts k v es es') (h : Turns leaf [] (es.get? k) v) :
    Enters leaf [k] es es' :=
  ⟨k, [], v, rfl, hputs, h⟩

theorem enters_of_new {leaf : Leaf} {path : List String} {o : Origin} {inner : Entries}
    (ho : o ≠ .inline) (hinner : Enters leaf path [] inner)
    (h : es.add? k (.table o inner) = some es') : Enters leaf (k :: path) es es' := by
  obtain ⟨hnone, hputs⟩ := Entries.add?_puts h
  obtain ⟨k', rest, w, rfl, hputs', hturns⟩ := hinner
  exact ⟨k, k' :: rest, _, rfl, hputs, hnone ▸ .makes ho hputs' hturns⟩

theorem enters_of_table {leaf : Leaf} {path : List String} {o : Origin} {inner inner' : Entries}
    (hget : es.get? k = some (.table o inner)) (ho : o ≠ .inline)
    (hinner : Enters leaf path inner inner') :
    Enters leaf (k :: path) es (es.set k (.table o inner')) := by
  obtain ⟨k', rest, w, rfl, hputs, hturns⟩ := hinner
  exact ⟨k, k' :: rest, _, rfl, Entries.set_puts hget, hget ▸ .passes ho hputs hturns⟩

theorem enters_of_tables {leaf : Leaf} {path : List String} {items items' : List Value}
    (hget : es.get? k = some (.tables items)) (hpath : path ≠ []) :
    Enters leaf (k :: path) es (es.set k (.tables items')) := by
  obtain ⟨k', rest, rfl⟩ := List.exists_cons_of_ne_nil hpath
  exact ⟨k, k' :: rest, _, rfl, Entries.set_puts hget, hget ▸ .last⟩

theorem Enters.ne_nil {leaf : Leaf} {path : List String} (h : Enters leaf path es es') :
    path ≠ [] := by
  obtain ⟨k, rest, v, rfl, -⟩ := h
  simp

theorem Entries.exists_of_onLast {f : Entries → Option Entries} {items items' : List Value}
    (h : Entries.onLast f items = some items') : ∃ inner inner', f inner = some inner' := by
  fun_induction Entries.onLast f items generalizing items' with
  | case1 | case3 => cases h
  | case2 o inner =>
      obtain ⟨inner', hinner, -⟩ := Option.map_eq_some_iff.1 h
      exact ⟨inner, inner', hinner⟩
  | case4 v rest hrest htable ih =>
      obtain ⟨rest', hrest', -⟩ := Option.map_eq_some_iff.1 h
      exact ih hrest'

theorem Entries.below_enters {leaf : Leaf} {path : List String} {f : Entries → Option Entries}
    (hf : ∀ ⦃inner inner'⦄, f inner = some inner' → Enters leaf path inner inner')
    (h : Entries.below f es k = some es') : Enters leaf (k :: path) es es' := by
  unfold Entries.below at h
  split at h
  · next hget =>
      obtain ⟨inner, hinner, hadd⟩ := Option.bind_eq_some_iff.1 h
      exact enters_of_new (by decide) (hf hinner) hadd
  · cases h
  · next o inner hinline hget =>
      obtain ⟨inner', hinner, rfl⟩ := Option.map_eq_some_iff.1 h
      exact enters_of_table hget hinline (hf hinner)
  · next items hget =>
      obtain ⟨items', hlast, rfl⟩ := Option.map_eq_some_iff.1 h
      obtain ⟨inner, inner', hinner⟩ := Entries.exists_of_onLast hlast
      exact enters_of_tables hget (hf hinner).ne_nil
  · cases h

theorem Entries.openTable_enters {path : List String} (h : es.openTable path = some es') :
    Enters .table path es es' := by
  induction path generalizing es es' with
  | nil => cases h
  | cons k rest ih =>
      obtain _ | ⟨k', rest⟩ := rest
      · unfold Entries.openTable at h
        split at h
        · next hget =>
            obtain ⟨hnone, hputs⟩ := Entries.add?_puts h
            exact enters_end hputs (hnone ▸ .opens)
        · next inner hget =>
            cases h
            exact enters_end (Entries.set_puts hget) (hget ▸ .names)
        · cases h
      · exact Entries.below_enters (fun _ _ => ih) h

theorem Entries.openElement_enters {path : List String} (h : es.openElement path = some es') :
    Enters .element path es es' := by
  induction path generalizing es es' with
  | nil => cases h
  | cons k rest ih =>
      obtain _ | ⟨k', rest⟩ := rest
      · unfold Entries.openElement at h
        split at h
        · next hget =>
            obtain ⟨hnone, hputs⟩ := Entries.add?_puts h
            exact enters_end hputs (hnone ▸ .starts)
        · next items hget =>
            cases h
            exact enters_end (Entries.set_puts hget) (hget ▸ .adds)
        · cases h
      · exact Entries.below_enters (fun _ _ => ih) h

theorem ne_inline_of_mayPass {last : Bool} {o : Origin} (h : Entries.mayPass last o = true) :
    o ≠ .inline := by
  rintro rfl
  cases h

theorem Entries.assign_enters {path : List String} (h : es.assign v path = some es') :
    Enters (.value v) path es es' := by
  induction path generalizing es es' with
  | nil => cases h
  | cons k rest ih =>
      obtain _ | ⟨k', rest⟩ := rest
      · obtain ⟨hnone, hputs⟩ := Entries.add?_puts h
        exact enters_end hputs (hnone ▸ .gives)
      · unfold Entries.assign at h
        split at h
        · next hget =>
            obtain ⟨inner, hinner, hadd⟩ := Option.bind_eq_some_iff.1 h
            exact enters_of_new (by decide) (ih hinner) hadd
        · next o inner hget =>
            split at h
            · next hpass =>
                obtain ⟨inner', hinner, rfl⟩ := Option.map_eq_some_iff.1 h
                exact enters_of_table hget (ne_inline_of_mayPass hpass) (ih hinner)
            · cases h
        · next items hget =>
            split at h
            · cases h
            · obtain ⟨items', -, rfl⟩ := Option.map_eq_some_iff.1 h
              exact enters_of_tables hget (by simp)
        · cases h

/-- What is assigned in an open table is entered at the path from the root. -/
theorem Entries.atPath_enters {leaf : Leaf} {opened path : List String}
    {f : Entries → Option Entries}
    (hf : ∀ ⦃inner inner'⦄, f inner = some inner' → Enters leaf path inner inner')
    (h : es.atPath f opened = some es') : Enters leaf (opened ++ path) es es' := by
  induction opened generalizing es es' with
  | nil => exact hf h
  | cons k rest ih => exact Entries.below_enters (fun _ _ => ih) h

/-! ## Runs of statements -/

/-- The statements with their paths from the root; `opened` is the path of the open table. -/
def inFull : (opened : List String) → List Statement → List Statement
  | _, [] => []
  | opened, .assign path v :: sts => .assign (opened ++ path) v :: inFull opened sts
  | _, .header path :: sts => .header path :: inFull path sts
  | _, .element path :: sts => .element path :: inFull path sts

/-- Entries become others by statements with paths from the root, one after the other. -/
inductive Grows : List Statement → Entries → Entries → Prop where
  | nil {es : Entries} : Grows [] es es
  | cons {st : Statement} {sts : List Statement} {es es' es'' : Entries}
      (h : Enters st.leaf st.path es es') (hrest : Grows sts es' es'') : Grows (st :: sts) es es''

theorem foldlM_add_grows {d d' : Draft} {sts : List Statement}
    (h : sts.foldlM Draft.add d = some d') :
    Grows (inFull d.openPath sts) d.entries d'.entries := by
  induction sts generalizing d with
  | nil =>
      cases h
      exact .nil
  | cons st sts ih =>
      rw [List.foldlM_cons] at h
      obtain ⟨d₁, hadd, hrest⟩ := Option.bind_eq_some_iff.1 h
      cases st with
      | header path =>
          obtain ⟨es, hes, rfl⟩ := Option.map_eq_some_iff.1 hadd
          exact .cons (Entries.openTable_enters hes) (ih hrest)
      | element path =>
          obtain ⟨es, hes, rfl⟩ := Option.map_eq_some_iff.1 hadd
          exact .cons (Entries.openElement_enters hes) (ih hrest)
      | assign path v =>
          obtain ⟨es, hes, rfl⟩ := Option.map_eq_some_iff.1 hadd
          exact .cons (Entries.atPath_enters (fun _ _ => Entries.assign_enters) hes) (ih hrest)

/-- The entries of a document come from its statements. -/
theorem ofStatements_grows {sts : List Statement} (h : ofStatements sts = some es) :
    Grows (inFull [] sts) [] es := by
  obtain ⟨d, hd, rfl⟩ := Option.map_eq_some_iff.1 h
  exact foldlM_add_grows hd

/-! ## A header behind a document -/

theorem inFull_append_header (opened : List String) (sts : List Statement) (path : List String) :
    inFull opened (sts ++ [.header path]) = inFull opened sts ++ [.header path] := by
  induction sts generalizing opened with
  | nil => rfl
  | cons st sts ih => cases st <;> simp [inFull, ih]

/-- A header may open a table that a document lacks. -/
theorem ofStatements_append_header {sts : List Statement} (h : ofStatements sts = some es)
    (hnone : es.get? k = none) :
    ofStatements (sts ++ [.header [k]]) = some (es ++ [(k, .table .header [])]) := by
  obtain ⟨d, hd, rfl⟩ := Option.map_eq_some_iff.1 h
  have hadd : d.entries.add? k (.table .header []) = some (d.entries ++ [(k, .table .header [])]) :=
    Entries.add?_eq_some_iff.2 ⟨hnone, rfl⟩
  simp [ofStatements, List.foldlM_append, hd, Draft.add, Entries.openTable, hnone, hadd]

end RouteKeeper.Toml
