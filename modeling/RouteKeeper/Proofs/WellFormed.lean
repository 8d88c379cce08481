import RouteKeeper.Proofs.TableInvariant

/-!
# Well-formed tables

The table of desired routes lists its subnets in ascending order, and no subnet has host bits.
So every subnet is listed once, and what the table lists is what it records. Whatever the
backend answers, a router never saves another table.
-/

namespace RouteKeeper

namespace Network

variable {l m n : Network}

theorem before_iff : m.before n = true ↔ m.address.value < n.address.value ∨
    m.address.value = n.address.value ∧ m.length < n.length := by
  simp [before]

theorem before_trans (h : l.before m = true) (h' : m.before n = true) : l.before n = true := by
  rw [before_iff] at h h' ⊢
  omega

theorem ne_of_before (h : m.before n = true) : m ≠ n := by
  rintro rfl
  rw [before_iff] at h
  omega

/-- Of two networks one is before the other. -/
theorem before_of_not_before (hne : m ≠ n) (h : ¬m.before n = true) : n.before m = true := by
  obtain ⟨⟨x, hx⟩, p, hp⟩ := m
  obtain ⟨⟨y, hy⟩, q, hq⟩ := n
  rw [before_iff] at h ⊢
  have hother : x ≠ y ∨ p ≠ q := by
    by_cases hxy : x = y
    · subst hxy
      exact Or.inr fun hpq => hne (by subst hpq; rfl)
    · exact Or.inl hxy
  simp only at h ⊢
  omega

end Network

namespace DesiredTable

variable {t : DesiredTable}

/-- A table is canonical when its subnets have no host bits. -/
def Canonical (t : DesiredTable) : Prop :=
  ∀ i ∈ t.routes, i.Canonical

instance (t : DesiredTable) : Decidable t.Canonical :=
  inferInstanceAs (Decidable (∀ i ∈ t.routes, i.Canonical))

theorem empty_canonical : empty.Canonical := by
  intro i hi
  cases hi

theorem mem_place {i j : Intent} {routes : List Intent} (h : j ∈ place i routes) :
    j = i ∨ j ∈ routes := by
  induction routes with
  | nil => exact Or.inl (List.mem_singleton.mp h)
  | cons k rest ih =>
      simp only [place] at h
      split at h
      · rcases List.mem_cons.mp h with rfl | h
        · exact Or.inl rfl
        · exact Or.inr (List.mem_cons_of_mem _ h)
      · split at h
        · exact List.mem_cons.mp h
        · rcases List.mem_cons.mp h with rfl | h
          · exact Or.inr List.mem_cons_self
          · exact (ih h).imp_right (List.mem_cons_of_mem _)

theorem Canonical.record {i : Intent} (h : t.Canonical) (hi : i.Canonical) :
    (t.record i).Canonical := by
  intro j hj
  rcases mem_place hj with rfl | hj
  · exact hi
  · exact h j hj

theorem Canonical.markWithdrawn (h : t.Canonical) (marked : Network) :
    (t.markWithdrawn marked).Canonical := by
  unfold DesiredTable.markWithdrawn
  split <;> exact h

theorem Canonical.adopt {intents : List Intent} (h : t.Canonical)
    (hintents : ∀ i ∈ intents, i.Canonical) : (Router.adopt t intents).2.Canonical :=
  Router.adopt_induction h fun _ i hi ht => ht.record (hintents i hi)

/-- A canonical table lists what it records. -/
theorem Canonical.toList_eq (h : t.Canonical) : t.toList = t.routes := by
  have hsame (i : Intent) (hi : i ∈ t.routes) : Intent.of i.subnet i.nextHop = i := by
    have hsubnet : i.subnet.truncate = i.subnet := h i hi
    rw [Intent.of, hsubnet]
  rw [toList, List.map_congr_left hsame, List.map_id']

/-- A look-up finds an entry of the table. -/
theorem mem_routes_of_get? {subnet : Network} {nextHop : Address}
    (h : t.get? subnet = some nextHop) : ⟨subnet, nextHop⟩ ∈ t.routes := by
  obtain ⟨i, hfind, rfl⟩ := Option.map_eq_some_iff.mp h
  have hsubnet : i.subnet = subnet := by simpa using List.find?_some hfind
  subst hsubnet
  exact List.mem_of_find?_eq_some hfind

/-- Where every subnet stands once, the entry for a subnet is the one that is found. -/
theorem find?_of_pairwise {i : Intent} {routes : List Intent}
    (h : routes.Pairwise fun i j => i.subnet ≠ j.subnet) (hi : i ∈ routes) :
    routes.find? (·.subnet == i.subnet) = some i := by
  induction routes with
  | nil => cases hi
  | cons j rest ih =>
      obtain ⟨hfirst, hrest⟩ := List.pairwise_cons.mp h
      rcases List.mem_cons.mp hi with rfl | hi
      · simp
      · have hj : j.subnet ≠ i.subnet := hfirst i hi
        simpa [hj] using ih hrest hi

/-- Subnets in ascending order. -/
def Ascending (routes : List Intent) : Prop :=
  routes.Pairwise fun i j => i.subnet.before j.subnet = true

instance (routes : List Intent) : Decidable (Ascending routes) :=
  inferInstanceAs (Decidable (routes.Pairwise fun i j => i.subnet.before j.subnet = true))

theorem Ascending.place {i : Intent} {routes : List Intent} (h : Ascending routes) :
    Ascending (place i routes) := by
  induction routes with
  | nil => exact List.pairwise_singleton _ _
  | cons j rest ih =>
      obtain ⟨hfirst, hrest⟩ := List.pairwise_cons.mp h
      simp only [DesiredTable.place]
      split
      case isTrue heq =>
        exact List.pairwise_cons.mpr ⟨heq ▸ hfirst, hrest⟩
      case isFalse hne =>
        split
        case isTrue hbefore =>
          refine List.pairwise_cons.mpr ⟨fun k hk => ?_, h⟩
          rcases List.mem_cons.mp hk with rfl | hk
          · exact hbefore
          · exact Network.before_trans hbefore (hfirst k hk)
        case isFalse hbefore =>
          refine List.pairwise_cons.mpr ⟨fun k hk => ?_, ih hrest⟩
          rcases mem_place hk with rfl | hk
          · exact Network.before_of_not_before hne hbefore
          · exact hfirst k hk

/-- A table whose subnets ascend and have no host bits. -/
structure WellFormed (t : DesiredTable) : Prop where
  canonical : t.Canonical
  ascending : Ascending t.routes

instance (t : DesiredTable) : Decidable t.WellFormed :=
  decidable_of_iff (t.Canonical ∧ Ascending t.routes)
    ⟨fun h => ⟨h.1, h.2⟩, fun h => ⟨h.canonical, h.ascending⟩⟩

theorem empty_wellFormed : empty.WellFormed :=
  ⟨empty_canonical, .nil⟩

namespace WellFormed

theorem record {i : Intent} (h : t.WellFormed) (hi : i.Canonical) : (t.record i).WellFormed :=
  ⟨h.canonical.record hi, h.ascending.place⟩

theorem markWithdrawn (h : t.WellFormed) (marked : Network) :
    (t.markWithdrawn marked).WellFormed := by
  unfold DesiredTable.markWithdrawn
  split
  · exact ⟨h.canonical, h.ascending⟩
  · exact h

theorem adopt {intents : List Intent} (h : t.WellFormed)
    (hintents : ∀ i ∈ intents, i.Canonical) : (Router.adopt t intents).2.WellFormed :=
  Router.adopt_induction h fun _ i hi ht => ht.record (hintents i hi)

/-- A well-formed table lists what it records, each subnet once. -/
theorem toList_pairwise (h : t.WellFormed) :
    t.toList.Pairwise fun i j => i.subnet ≠ j.subnet := by
  rw [h.canonical.toList_eq]
  exact h.ascending.imp Network.ne_of_before

/-- A well-formed table lists the intents that a look-up finds. -/
theorem mem_toList_iff (h : t.WellFormed) {i : Intent} :
    i ∈ t.toList ↔ t.get? i.subnet = some i.nextHop := by
  constructor
  · intro hi
    have hdistinct := h.toList_pairwise
    rw [h.canonical.toList_eq] at hi hdistinct
    rw [get?, find?_of_pairwise hdistinct hi]
    rfl
  · intro hget
    rw [h.canonical.toList_eq]
    exact mem_routes_of_get? hget

/-- Of the listed intents only one is for a subnet. -/
theorem eq_of_subnet_eq (h : t.WellFormed) {i j : Intent} (hi : i ∈ t.toList) (hj : j ∈ t.toList)
    (hsubnet : i.subnet = j.subnet) : i = j := by
  have hhop : some i.nextHop = some j.nextHop := by
    rw [← h.mem_toList_iff.mp hi, ← h.mem_toList_iff.mp hj, hsubnet]
  exact Intent.eq_iff.mpr ⟨hsubnet, Option.some.inj hhop⟩

end WellFormed

end DesiredTable

/-- Only intents with host bits can spoil a well-formed table. -/
theorem Intent.Canonical.keeps_wellFormed {i : Intent} (hi : i.Canonical) :
    i.Keeps DesiredTable.WellFormed where
  markWithdrawn h := h.markWithdrawn i.subnet
  record h := h.record hi

/-- A router that starts without desired routes has a well-formed table ever after, over any
backend and whatever happens to it. -/
theorem Site.run_wellFormed {σ ε : Type} (x : Site σ ε) (interval started : Nat) (backend : σ)
    (events : List (Event ε)) :
    (x.run events (.start interval started backend)).router.desired.WellFormed :=
  x.run_desired DesiredTable.empty_wellFormed (fun _ hi => hi.keeps_wellFormed)
    (fun _ _ hintents ht => ht.adopt hintents) interval started backend events

end RouteKeeper
