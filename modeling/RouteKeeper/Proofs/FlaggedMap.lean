import Mathlib.Data.List.Forall2
import RouteKeeper.Proofs.WellFormed

/-!
# The table of desired routes is a map with flags

To its callers the table is a finite map from subnets to a next hop and a flag, which tells that
the route is withdrawn. The next hops and the marks are kept apart; that every edit keeps them in
step, so that no mark outlives its entry and none stands without one, is what the map says. The
table of a router is such a map as well, whatever happened to the router.

## Implementation notes

A table can be cloned, so a caller holds several of them. What it does with them is told once for
anything that can be edited, and is carried out on tables and on maps alike.
-/

namespace RouteKeeper

namespace DesiredTable

/-- A change that is asked of a table. -/
inductive Edit where
  /-- Record an intent. -/
  | record (i : Intent)
  /-- Record an intent if its subnet still has the expected next hop, or none. -/
  | compareAndSet (i : Intent) (expected : Option Address)
  /-- Mark the route of a subnet as withdrawn. -/
  | markWithdrawn (subnet : Network)
  deriving DecidableEq

/-- The subnet that an edit is about. -/
def Edit.subnet : Edit → Network
  | .record i => i.subnet
  | .compareAndSet i _ => i.subnet
  | .markWithdrawn subnet => subnet

/-- What an edit is answered with. -/
inductive Answer where
  /-- The next hop that was superseded. -/
  | superseded (nextHop : Option Address)
  /-- Whether the intent was recorded. -/
  | decided (done : Bool)
  /-- Nothing is told. -/
  | silent
  deriving DecidableEq

/-- Carries out an edit. -/
def edit (t : DesiredTable) : Edit → Answer × DesiredTable
  | .record i => (.superseded (t.supersede i).1, (t.supersede i).2)
  | .compareAndSet i expected =>
    (.decided (t.compareAndSet i expected).1, (t.compareAndSet i expected).2)
  | .markWithdrawn subnet => (.silent, t.markWithdrawn subnet)

/-- What a caller does with the tables that it holds. -/
inductive Operation where
  /-- It edits one of them. -/
  | edit (index : Nat) (e : Edit)
  /-- It clones one of them and holds the clone as well. -/
  | clone (index : Nat)
  deriving DecidableEq

/-- An operation is canonical when its subnet has no host bits. -/
def Operation.Canonical : Operation → Prop
  | .edit _ e => e.subnet.Canonical
  | .clone _ => True

instance : (o : Operation) → Decidable o.Canonical
  | .edit _ e => inferInstanceAs (Decidable e.subnet.Canonical)
  | .clone _ => inferInstanceAs (Decidable True)

section Holding

variable {τ : Type} (act : τ → Edit → Answer × τ)

/-- Carries out an operation on what the caller holds, given how one of these is edited. -/
def perform (held : List τ) : Operation → Option Answer × List τ
  | .edit index e =>
    match held[index]? with
    | some t => (some (act t e).1, held.set index (act t e).2)
    | none => (none, held)
  | .clone index => (none, held ++ held[index]?.toList)

/-- Carries out operations one after the other. -/
def performAll (held : List τ) : List Operation → List (Option Answer) × List τ
  | [] => ([], held)
  | o :: rest =>
    let (answer, held) := perform act held o
    let (answers, held) := performAll held rest
    (answer :: answers, held)

variable {act} {P : τ → Prop} {held : List τ}

/-- What edits keep of one table, an operation keeps of all that are held. -/
theorem forall_mem_perform {o : Operation} (ho : o.Canonical)
    (hact : ∀ t e, e.subnet.Canonical → P t → P (act t e).2) (hheld : ∀ t ∈ held, P t) :
    ∀ t ∈ (perform act held o).2, P t := by
  intro t ht
  cases o with
  | edit index e =>
      cases hindex : held[index]? with
      | none =>
          simp only [perform, hindex] at ht
          exact hheld t ht
      | some edited =>
          simp only [perform, hindex] at ht
          rcases List.mem_or_eq_of_mem_set ht with ht | rfl
          · exact hheld t ht
          · exact hact edited e ho (hheld edited (List.mem_of_getElem? hindex))
  | clone index =>
      rcases List.mem_append.mp ht with ht | ht
      · exact hheld t ht
      · exact hheld t (List.mem_of_getElem? (Option.mem_toList.mp ht))

theorem forall_mem_performAll {operations : List Operation}
    (hcanonical : ∀ o ∈ operations, o.Canonical)
    (hact : ∀ t e, e.subnet.Canonical → P t → P (act t e).2) (hheld : ∀ t ∈ held, P t) :
    ∀ t ∈ (performAll act held operations).2, P t := by
  induction operations generalizing held with
  | nil => exact hheld
  | cons o rest ih =>
      obtain ⟨ho, hrest⟩ := List.forall_mem_cons.mp hcanonical
      exact ih hrest (forall_mem_perform ho hact hheld)

variable {υ : Type} {act' : υ → Edit → Answer × υ} {f : τ → υ}

/-- If edits look the same from outside, so does an operation on all that are held. -/
theorem perform_map (o : Operation)
    (hact : ∀ t ∈ held, ∀ e, act' (f t) e = Prod.map id f (act t e)) :
    perform act' (held.map f) o = Prod.map id (List.map f) (perform act held o) := by
  cases o with
  | edit index e =>
      simp only [perform, List.getElem?_map]
      cases hindex : held[index]? with
      | none => rfl
      | some t =>
          have ht := hact t (List.mem_of_getElem? hindex) e
          simp [ht, List.map_set]
  | clone index =>
      cases hindex : held[index]? with
      | none => simp [perform, hindex]
      | some t => simp [perform, hindex]

/-- If edits look the same from outside wherever a property holds that they keep, so do operations
one after the other. -/
theorem performAll_map {operations : List Operation}
    (hcanonical : ∀ o ∈ operations, o.Canonical)
    (hkeeps : ∀ t e, e.subnet.Canonical → P t → P (act t e).2)
    (hact : ∀ t e, P t → act' (f t) e = Prod.map id f (act t e)) (hheld : ∀ t ∈ held, P t) :
    performAll act' (held.map f) operations =
      Prod.map id (List.map f) (performAll act held operations) := by
  induction operations generalizing held with
  | nil => rfl
  | cons o rest ih =>
      -- the induction goes over the operations, for whatever the earlier ones have left
      obtain ⟨ho, hrest⟩ := List.forall_mem_cons.mp hcanonical
      have hstep := perform_map o fun t ht e => hact t e (hheld t ht)
      have htail := ih hrest (forall_mem_perform ho hkeeps hheld)
      simp only [performAll, hstep, Prod.map_fst, Prod.map_snd, id_eq, htail]
      rfl

end Holding

end DesiredTable

/-- A map from subnets to a next hop and a flag, which is set while the route is withdrawn. -/
def FlaggedMap : Type :=
  Network → Option (Address × Bool)

namespace FlaggedMap

open DesiredTable

/-- The map without entries. -/
def empty : FlaggedMap :=
  fun _ => none

/-- The next hop of a subnet. -/
def hop? (m : FlaggedMap) (subnet : Network) : Option Address :=
  (m subnet).map Prod.fst

/-- Gives the subnet of an intent its next hop, with the flag clear. -/
def put (m : FlaggedMap) (i : Intent) : FlaggedMap :=
  fun subnet => if subnet = i.subnet then some (i.nextHop, false) else m subnet

/-- Sets the flag of a subnet that has an entry. -/
def flag (m : FlaggedMap) (marked : Network) : FlaggedMap :=
  fun subnet => if subnet = marked then (m marked).map fun entry => (entry.1, true) else m subnet

/-- Carries out an edit on a map. -/
def edit (m : FlaggedMap) : Edit → Answer × FlaggedMap
  | .record i => (.superseded (m.hop? i.subnet), m.put i)
  | .compareAndSet i expected =>
    if m.hop? i.subnet = expected then (.decided true, m.put i) else (.decided false, m)
  | .markWithdrawn subnet => (.silent, m.flag subnet)

/-- A list has each entry of a map once, strictly ascending by address and then by prefix
length. -/
structure ListedBy (m : FlaggedMap) (routes : List Intent) : Prop where
  mem_iff (i : Intent) : i ∈ routes ↔ ∃ withdrawn, m i.subnet = some (i.nextHop, withdrawn)
  count (subnet : Network) :
    (routes.map (·.subnet)).count subnet = if (m subnet).isSome then 1 else 0
  ascending : routes.Pairwise fun i j => i.subnet.address.value < j.subnet.address.value ∨
    i.subnet.address.value = j.subnet.address.value ∧ i.subnet.length < j.subnet.length

/-- A table tells its callers what a map holds. -/
structure ShownBy (m : FlaggedMap) (t : DesiredTable) : Prop where
  get? (subnet : Network) : t.get? subnet = m.hop? subnet
  isWithdrawn_iff (subnet : Network) :
    t.isWithdrawn subnet = true ↔ ∃ nextHop, m subnet = some (nextHop, true)
  isCurrent_iff (i : Intent) : t.isCurrent i = true ↔ m i.subnet = some (i.nextHop, false)
  withdrawn_subset : t.withdrawn ⊆ t.routes.map (·.subnet)
  listedBy : m.ListedBy t.toList
  length_toList : t.toList.length = t.size

end FlaggedMap

namespace DesiredTable

variable {t : DesiredTable}

/-- An edit records an intent for its subnet, marks its subnet or changes nothing. -/
theorem edit_cases (t : DesiredTable) (e : Edit) :
    (∃ i, i.subnet = e.subnet ∧ (t.edit e).2 = t.record i) ∨
      (t.edit e).2 = t.markWithdrawn e.subnet ∨ (t.edit e).2 = t := by
  cases e with
  | record i => exact Or.inl ⟨i, rfl, rfl⟩
  | compareAndSet i expected =>
      simp only [edit, compareAndSet]
      split
      · exact Or.inl ⟨i, rfl, rfl⟩
      · exact Or.inr (Or.inr rfl)
  | markWithdrawn subnet => exact Or.inr (Or.inl rfl)

/-- Nothing but the entry of its own subnet is touched by an edit. -/
theorem edit_of_ne {e : Edit} {subnet : Network} (h : subnet ≠ e.subnet) :
    (t.edit e).2.get? subnet = t.get? subnet ∧
      (t.edit e).2.isWithdrawn subnet = t.isWithdrawn subnet := by
  obtain ⟨i, hi, hedit⟩ | hedit | hedit := t.edit_cases e
  · have hne : i.subnet ≠ subnet := hi ▸ h.symm
    rw [hedit]
    exact ⟨t.get?_record_of_ne i subnet hne, t.isWithdrawn_record_of_ne i subnet hne⟩
  · rw [hedit]
    exact ⟨t.get?_markWithdrawn subnet _, t.isWithdrawn_markWithdrawn_of_ne subnet h⟩
  · rw [hedit]
    exact ⟨rfl, rfl⟩

/-- A recorded subnet stays recorded when an intent is recorded. -/
theorem isSome_get?_record {subnet : Network} (h : (t.get? subnet).isSome = true) (i : Intent) :
    ((t.record i).get? subnet).isSome = true := by
  rw [get?_record]
  split
  · rfl
  · exact h

/-- No edit removes an entry. -/
theorem isSome_get?_edit {subnet : Network} (h : (t.get? subnet).isSome = true) (e : Edit) :
    ((t.edit e).2.get? subnet).isSome = true := by
  obtain ⟨i, -, hedit⟩ | hedit | hedit := t.edit_cases e
  · rw [hedit]
    exact isSome_get?_record h i
  · rw [hedit, get?_markWithdrawn]
    exact h
  · rw [hedit]
    exact h

/-- The map that a table stands for. -/
def view (t : DesiredTable) : FlaggedMap :=
  fun subnet => (t.get? subnet).map fun nextHop => (nextHop, t.isWithdrawn subnet)

theorem view_eq_some_iff {subnet : Network} {nextHop : Address} {withdrawn : Bool} :
    t.view subnet = some (nextHop, withdrawn) ↔
      t.get? subnet = some nextHop ∧ t.isWithdrawn subnet = withdrawn := by
  cases h : t.get? subnet <;> simp [view, h]

theorem hop?_view (subnet : Network) : t.view.hop? subnet = t.get? subnet := by
  cases h : t.get? subnet <;> simp [FlaggedMap.hop?, view, h]

theorem isSome_view (subnet : Network) : (t.view subnet).isSome = (t.get? subnet).isSome := by
  simp [view]

theorem view_record (i : Intent) : (t.record i).view = t.view.put i := by
  funext subnet
  by_cases h : subnet = i.subnet
  · subst h
    simp [view, FlaggedMap.put]
  · simp [view, FlaggedMap.put, h, get?_record_of_ne _ _ _ (Ne.symm h),
      isWithdrawn_record_of_ne _ _ _ (Ne.symm h)]

theorem view_markWithdrawn (marked : Network) :
    (t.markWithdrawn marked).view = t.view.flag marked := by
  funext subnet
  by_cases h : subnet = marked
  · subst h
    cases hget : t.get? subnet with
    | none => simp [view, FlaggedMap.flag, hget]
    | some nextHop => simp [view, FlaggedMap.flag, hget, isWithdrawn_markWithdrawn]
  · simp [view, FlaggedMap.flag, h, isWithdrawn_markWithdrawn_of_ne _ _ h]

/-- In an ascending list the search stops early and misses nothing. -/
theorem displaced?_eq_find? {i : Intent} {routes : List Intent} (h : Ascending routes) :
    displaced? i routes = routes.find? (·.subnet == i.subnet) := by
  induction routes with
  | nil => rfl
  | cons j rest ih =>
      obtain ⟨hfirst, hrest⟩ := List.pairwise_cons.mp h
      simp only [displaced?]
      split
      case isTrue hsame => simp [hsame]
      case isFalse hne =>
        have hj : j.subnet ≠ i.subnet := Ne.symm hne
        rw [List.find?_cons_of_neg (by simpa using hj)]
        split
        case isTrue hbefore =>
          -- the entries that are not looked at are all after the intent
          refine (List.find?_eq_none.mpr fun k hk => ?_).symm
          have hk : i.subnet.before k.subnet = true := Network.before_trans hbefore (hfirst k hk)
          simpa using (Network.ne_of_before hk).symm
        case isFalse => exact ih hrest

theorem supersede_eq (h : Ascending t.routes) (i : Intent) :
    t.supersede i = (t.get? i.subnet, t.record i) := by
  rw [supersede, displaced?_eq_find? h, get?]

/-- A table and the map that it stands for are edited alike. -/
theorem edit_view (h : Ascending t.routes) (e : Edit) :
    t.view.edit e = Prod.map id view (t.edit e) := by
  cases e with
  | record i =>
      simp only [FlaggedMap.edit, edit, supersede_eq h, hop?_view, ← view_record]
      rfl
  | compareAndSet i expected =>
      simp only [FlaggedMap.edit, edit, compareAndSet, hop?_view, ← view_record]
      split <;> rfl
  | markWithdrawn subnet =>
      simp only [FlaggedMap.edit, edit, ← view_markWithdrawn]
      rfl

/-- A well-formed table in which only recorded subnets are marked. -/
structure Tidy (t : DesiredTable) : Prop extends WellFormed t where
  recorded (subnet : Network) (h : t.isWithdrawn subnet = true) : (t.get? subnet).isSome = true

theorem empty_tidy : empty.Tidy where
  toWellFormed := empty_wellFormed
  recorded _ h := by
    rw [isWithdrawn_empty] at h
    cases h

namespace Tidy

theorem record {i : Intent} (h : t.Tidy) (hi : i.Canonical) : (t.record i).Tidy where
  toWellFormed := h.toWellFormed.record hi
  recorded subnet hmarked := by
    rw [isWithdrawn_record, Bool.and_eq_true] at hmarked
    exact isSome_get?_record (h.recorded subnet hmarked.2) i

theorem markWithdrawn (h : t.Tidy) (marked : Network) : (t.markWithdrawn marked).Tidy where
  toWellFormed := h.toWellFormed.markWithdrawn marked
  recorded subnet hmarked := by
    rw [isWithdrawn_markWithdrawn, Bool.or_eq_true, Bool.and_eq_true, beq_iff_eq] at hmarked
    rw [get?_markWithdrawn]
    rcases hmarked with hmarked | ⟨rfl, hget⟩
    · exact h.recorded subnet hmarked
    · exact hget

theorem adopt {intents : List Intent} (h : t.Tidy) (hintents : ∀ i ∈ intents, i.Canonical) :
    (Router.adopt t intents).2.Tidy :=
  Router.adopt_induction h fun _ i hi ht => ht.record (hintents i hi)

theorem edit (h : t.Tidy) {e : Edit} (he : e.subnet.Canonical) : (t.edit e).2.Tidy := by
  obtain ⟨i, hi, hedit⟩ | hedit | hedit := t.edit_cases e
  · have hi : i.Canonical := by
      rw [Intent.Canonical, hi]
      exact he
    rw [hedit]
    exact h.record hi
  · rw [hedit]
    exact h.markWithdrawn e.subnet
  · rw [hedit]
    exact h

/-- Every marked subnet is recorded. -/
theorem withdrawn_subset (h : t.Tidy) : t.withdrawn ⊆ t.routes.map (·.subnet) := by
  intro subnet hsubnet
  have hmarked : t.isWithdrawn subnet = true := by simpa [isWithdrawn] using hsubnet
  obtain ⟨nextHop, hget⟩ := Option.isSome_iff_exists.mp (h.recorded subnet hmarked)
  exact List.mem_map.mpr ⟨_, mem_routes_of_get? hget, rfl⟩

end Tidy

/-- A well-formed table lists the map that it stands for. -/
theorem WellFormed.listedBy (h : t.WellFormed) : t.view.ListedBy t.toList where
  mem_iff i := by simp [h.mem_toList_iff, view_eq_some_iff]
  count subnet := by
    have hnodup : (t.toList.map (·.subnet)).Nodup := List.pairwise_map.mpr h.toList_pairwise
    have hmem : subnet ∈ t.toList.map (·.subnet) ↔ (t.view subnet).isSome = true := by
      rw [isSome_view, Option.isSome_iff_exists, List.mem_map]
      constructor
      · rintro ⟨i, hi, rfl⟩
        exact ⟨i.nextHop, h.mem_toList_iff.mp hi⟩
      · rintro ⟨nextHop, hget⟩
        exact ⟨⟨subnet, nextHop⟩, h.mem_toList_iff.mpr hget, rfl⟩
    simp only [hnodup.count, hmem]
  ascending := by
    rw [h.canonical.toList_eq]
    exact h.ascending.imp Network.before_iff.mp

/-- A tidy table tells its callers what the map holds that it stands for. -/
theorem Tidy.shownBy (h : t.Tidy) : t.view.ShownBy t where
  get? subnet := (hop?_view subnet).symm
  isWithdrawn_iff subnet := by
    simp only [view_eq_some_iff, exists_and_right, ← Option.isSome_iff_exists]
    exact ⟨fun hmarked => ⟨h.recorded subnet hmarked, hmarked⟩, And.right⟩
  isCurrent_iff i := by rw [isCurrent_iff, liveHop?_eq_some_iff, view_eq_some_iff]
  withdrawn_subset := h.withdrawn_subset
  listedBy := h.listedBy
  length_toList := List.length_map _

/-- Whatever a caller does with a table and its clones, it is answered as if they were maps, each of
them tells what its map holds, and an edit leaves all other entries as they are. -/
theorem tables_follow_maps (operations : List Operation)
    (hcanonical : ∀ o ∈ operations, o.Canonical) :
    let maps := performAll FlaggedMap.edit [FlaggedMap.empty] operations
    let tables := performAll edit [empty] operations
    tables.1 = maps.1 ∧ List.Forall₂ FlaggedMap.ShownBy maps.2 tables.2 ∧
      ∀ t ∈ tables.2, ∀ e subnet,
        ((t.get? subnet).isSome = true → ((t.edit e).2.get? subnet).isSome = true) ∧
        (subnet ≠ e.subnet → (t.edit e).2.get? subnet = t.get? subnet ∧
          (t.edit e).2.isWithdrawn subnet = t.isWithdrawn subnet) := by
  intro maps tables
  have hstart : ∀ t ∈ [empty], t.Tidy := List.forall_mem_singleton.mpr empty_tidy
  have hkeeps (t : DesiredTable) (e : Edit) (he : e.subnet.Canonical) (ht : t.Tidy) :
      (t.edit e).2.Tidy := ht.edit he
  have hmaps : maps = Prod.map id (List.map view) tables :=
    performAll_map hcanonical hkeeps (fun t e ht => edit_view ht.ascending e) hstart
  have htidy : ∀ t ∈ tables.2, t.Tidy := forall_mem_performAll hcanonical hkeeps hstart
  refine ⟨?_, ?_, fun t _ e subnet => ⟨fun h => isSome_get?_edit h e, edit_of_ne⟩⟩
  · rw [hmaps]
    rfl
  · rw [hmaps, Prod.map_snd, List.forall₂_map_left_iff, List.forall₂_same]
    exact fun t ht => (htidy t ht).shownBy

private def wide : Network :=
  ⟨.ofOctets 10 0 0 0, 8, by decide⟩

private def narrow : Network :=
  ⟨.ofOctets 10 0 0 0, 12, by decide⟩

private def hop (last : Nat) : Address :=
  .ofOctets 192 168 3 last

/-- A mark on an unknown subnet, a clone of a table with a withdrawn route, and edits of both. -/
private def parting : List Operation :=
  [.edit 0 (.record ⟨narrow, hop 1⟩), .edit 0 (.markWithdrawn wide),
    .edit 0 (.markWithdrawn narrow), .clone 0,
    .edit 0 (.compareAndSet ⟨narrow, hop 5⟩ (some (hop 1))),
    .edit 1 (.compareAndSet ⟨narrow, hop 9⟩ none), .edit 1 (.record ⟨wide, hop 9⟩),
    .edit 0 (.record ⟨narrow, hop 7⟩)]

/-- The clone keeps the mark that the first table loses. -/
theorem tables_follow_maps_of_parting :
    (∀ o ∈ parting, o.Canonical) ∧
      (performAll FlaggedMap.edit [FlaggedMap.empty] parting).1 =
        [some (.superseded none), some .silent, some .silent, none, some (.decided true),
          some (.decided false), some (.superseded none), some (.superseded (some (hop 5)))] ∧
      List.Forall₂ FlaggedMap.ShownBy
        (performAll FlaggedMap.edit [FlaggedMap.empty] parting).2
        [⟨[⟨narrow, hop 7⟩], []⟩, ⟨[⟨wide, hop 9⟩, ⟨narrow, hop 1⟩], [narrow]⟩] := by
  have hcanonical : ∀ o ∈ parting, o.Canonical := by decide
  obtain ⟨hanswers, hshown, -⟩ := tables_follow_maps parting hcanonical
  exact ⟨hcanonical, hanswers.symm, hshown⟩

end DesiredTable

/-- Only intents with host bits can spoil a tidy table. -/
theorem Intent.Canonical.keeps_tidy {i : Intent} (hi : i.Canonical) :
    i.Keeps DesiredTable.Tidy where
  markWithdrawn h := h.markWithdrawn i.subnet
  record h := h.record hi

/-- A router that starts without desired routes never has a mark on a subnet that it does not
record, over any backend and whatever happens to it. -/
theorem Site.run_tidy {σ ε : Type} (x : Site σ ε) (interval started : Nat) (backend : σ)
    (events : List (Event ε)) :
    (x.run events (.start interval started backend)).router.desired.Tidy :=
  x.run_desired DesiredTable.empty_tidy (fun _ hi => hi.keeps_tidy)
    (fun _ _ hintents ht => ht.adopt hintents) interval started backend events

/-- A router that starts without desired routes tells its callers what a map with flags holds, over
any backend and whatever happens to it. -/
theorem Site.run_shownBy {σ ε : Type} (x : Site σ ε) (interval started : Nat) (backend : σ)
    (events : List (Event ε)) :
    let table := (x.run events (.start interval started backend)).router.desired
    table.view.ShownBy table :=
  (x.run_tidy interval started backend events).shownBy

end RouteKeeper
