import RouteKeeper.Proofs.Adoption
import RouteKeeper.Proofs.Recording

/-!
# The paths of a dataplane that adds

Where a write adds one more path, the desired table has to keep count. It backs the
routes when every next hop that it takes to be live is live and every withdrawn subnet has
room for one more path; it covers them when moreover no subnet without entry has a path.
Deleting what is live makes room, and a write into that room is covered again.

## Implementation notes

The bound on the number of paths is a function of the subnet. It is constantly one for a
backend that starts without routes, and what a subnet started with for any other backend.
-/

namespace RouteKeeper

open Recording

variable {bound : Network → Nat} {t : DesiredTable} {routes : List InstalledRoute}

/-- Routes are canonical, and no subnet has more paths than its bound. -/
structure PathsWithin (bound : Network → Nat) (routes : List InstalledRoute) : Prop where
  canonical : ∀ r ∈ routes, r.Canonical
  le : ∀ subnet, (livePathsOf routes subnet).length ≤ bound subnet

/-- What the table takes to be live is live, and a withdrawn subnet has room for a path. -/
structure DesiredTable.Backs (bound : Network → Nat) (t : DesiredTable)
    (routes : List InstalledRoute) : Prop extends PathsWithin bound routes where
  live : ∀ subnet nextHop, t.liveHop? subnet = some nextHop → nextHop ∈ livePathsOf routes subnet
  room : ∀ subnet, t.isWithdrawn subnet = true → (livePathsOf routes subnet).length < bound subnet

/-- The table backs the routes, and what it does not record has no path. -/
structure DesiredTable.Covers (bound : Network → Nat) (t : DesiredTable)
    (routes : List InstalledRoute) : Prop extends t.Backs bound routes where
  known : ∀ subnet, t.get? subnet = none → livePathsOf routes subnet = []

/-- The empty table backs whatever is within the bound. -/
theorem PathsWithin.empty_backs (h : PathsWithin bound routes) :
    DesiredTable.empty.Backs bound routes where
  toPathsWithin := h
  live subnet nextHop hlive := by simp [DesiredTable.liveHop?] at hlive
  room subnet hmark := by simp at hmark

/-- One more path is within the bound of a subnet that has room. -/
theorem PathsWithin.write {i : Intent} (h : PathsWithin bound routes) (hi : i.Canonical)
    (hroom : (livePathsOf routes i.subnet).length < bound i.subnet) :
    PathsWithin bound (Recording.write .vpp i routes) where
  canonical := canonical_write hi h.canonical
  le subnet := by
    rw [livePathsOf_write]
    by_cases hs : i.subnet = subnet
    · subst hs
      simpa [Nat.succ_le_iff] using hroom
    · simpa [hs] using h.le subnet

/-- A delete never adds a path. -/
theorem PathsWithin.erase (i : Intent) (h : PathsWithin bound routes) :
    PathsWithin bound (Recording.erase .vpp i routes) where
  canonical := canonical_erase i h.canonical
  le subnet := by
    rw [livePathsOf_erase]
    split
    · exact Nat.le_trans (List.length_filter_le _ _) (h.le subnet)
    · exact h.le subnet

/-- Deleting the live next hop of a subnet makes room for another path. -/
theorem length_livePathsOf_erase_lt {i : Intent} (h : PathsWithin bound routes)
    (hlive : i.nextHop ∈ livePathsOf routes i.subnet) :
    (livePathsOf (Recording.erase .vpp i routes) i.subnet).length < bound i.subnet := by
  have hlt : ((livePathsOf routes i.subnet).filter (· ≠ i.nextHop)).length <
      (livePathsOf routes i.subnet).length :=
    List.length_filter_lt_length_iff_exists.mpr ⟨i.nextHop, hlive, by simp⟩
  rw [livePathsOf_erase, if_pos rfl]
  exact Nat.lt_of_lt_of_le hlt (h.le i.subnet)

namespace DesiredTable

/-- After the live route of a subnet is deleted, marking the subnet keeps the cover. -/
theorem Covers.erase_markWithdrawn {i : Intent} (h : t.Covers bound routes)
    (hlive : t.liveHop? i.subnet = some i.nextHop) :
    (t.markWithdrawn i.subnet).Covers bound (Recording.erase .vpp i routes) where
  toPathsWithin := h.toPathsWithin.erase i
  live subnet nextHop hnext := by
    rw [liveHop?_eq_some_iff, get?_markWithdrawn, isWithdrawn_markWithdrawn] at hnext
    by_cases hs : subnet = i.subnet
    · subst hs
      have hget := ((liveHop?_eq_some_iff _ _).mp hlive).1
      simp [hget] at hnext
    · have hmark : t.isWithdrawn subnet = false := by simpa [hs] using hnext.2
      rw [livePathsOf_erase, if_neg (Ne.symm hs)]
      exact h.live subnet nextHop ((liveHop?_eq_some_iff _ _).mpr ⟨hnext.1, hmark⟩)
  room subnet hmark := by
    by_cases hs : subnet = i.subnet
    · subst hs
      exact length_livePathsOf_erase_lt h.toPathsWithin (h.live _ _ hlive)
    · rw [isWithdrawn_markWithdrawn_of_ne t subnet hs] at hmark
      rw [livePathsOf_erase, if_neg (Ne.symm hs)]
      exact h.room subnet hmark
  known subnet hget := by
    rw [get?_markWithdrawn] at hget
    rw [livePathsOf_erase, h.known subnet hget]
    split <;> rfl

/-- A subnet whose route nobody counts on has room for one. -/
theorem Covers.room_of_liveHop?_eq_none {subnet : Network} (h : t.Covers bound routes)
    (hbound : 0 < bound subnet) (hlive : t.liveHop? subnet = none) :
    (livePathsOf routes subnet).length < bound subnet := by
  cases hmark : t.isWithdrawn subnet with
  | true => exact h.room subnet hmark
  | false =>
      have hget : t.get? subnet = none := by simpa [liveHop?, hmark] using hlive
      simpa [h.known subnet hget] using hbound

/-- A write into the room of a subnet is covered once it is recorded. -/
theorem Covers.write_record {i : Intent} (h : t.Covers bound routes) (hi : i.Canonical)
    (hroom : (livePathsOf routes i.subnet).length < bound i.subnet) :
    (t.record i).Covers bound (Recording.write .vpp i routes) where
  toPathsWithin := h.toPathsWithin.write hi hroom
  live subnet nextHop hnext := by
    rw [livePathsOf_write]
    by_cases hs : i.subnet = subnet
    · subst hs
      have hhop : i.nextHop = nextHop := by simpa [liveHop?] using hnext
      simp [hhop]
    · have hsame := t.liveHop?_record_of_ne i subnet hs
      simpa [hs] using h.live subnet nextHop (hsame ▸ hnext)
  room subnet hmark := by
    by_cases hs : i.subnet = subnet
    · subst hs
      simp at hmark
    · rw [isWithdrawn_record_of_ne t i subnet hs] at hmark
      simpa [livePathsOf_write, hs] using h.room subnet hmark
  known subnet hget := by
    by_cases hs : i.subnet = subnet
    · subst hs
      simp at hget
    · rw [get?_record_of_ne t i subnet hs] at hget
      simpa [livePathsOf_write, hs] using h.known subnet hget

/-- The first listed intent for a subnet has the first path of the subnet as next hop. -/
theorem find?_intentOf? (hcanonical : ∀ r ∈ routes, r.Canonical) (subnet : Network) :
    ((routes.filterMap Router.intentOf?).find? (·.subnet == subnet)).map (·.nextHop) =
      (livePathsOf routes subnet).head? := by
  induction routes with
  | nil => rfl
  | cons r rest ih =>
      have ih := ih fun r hr => hcanonical r (List.mem_cons_of_mem _ hr)
      cases hi : Router.intentOf? r with
      | none =>
          have hskip : r.destination = none ∨ r.gateway = none := by
            cases hd : r.destination <;> cases hg : r.gateway <;>
              simp_all [Router.intentOf?]
          have hsame : livePathsOf (r :: rest) subnet = livePathsOf rest subnet := by
            rcases hskip with hd | hg
            · simp [livePathsOf, hd]
            · by_cases hd : r.destination = some subnet <;> simp [livePathsOf, hd, hg]
          rw [List.filterMap_cons_none hi, ih, hsame]
      | some i =>
          obtain ⟨n, hd, hg, hn⟩ := Router.intentOf?_eq_some_iff.mp hi
          have hsubnet : i.subnet = n := hn.trans (hcanonical r List.mem_cons_self n hd)
          rw [List.filterMap_cons_some hi]
          by_cases hs : n = subnet
          · subst hs
            simp [livePathsOf, hd, hg, hsubnet]
          · simpa [livePathsOf, hd, hsubnet, hs] using ih

/-- Adopting what is installed turns a table that backs the routes into one that covers them. -/
theorem Backs.adopt (h : t.Backs bound routes) :
    (Router.adopt t (routes.filterMap Router.intentOf?)).2.Covers bound routes := by
  have hfirst := find?_intentOf? h.canonical
  refine ⟨⟨h.toPathsWithin, ?_, ?_⟩, ?_⟩
  · intro subnet nextHop hnext
    rw [liveHop?_eq_some_iff, Router.get?_adopt, Router.isWithdrawn_adopt, hfirst] at hnext
    cases hget : t.get? subnet with
    | some old =>
        have hold : old = nextHop ∧ t.isWithdrawn subnet = false := by simpa [hget] using hnext
        exact h.live subnet nextHop
          ((liveHop?_eq_some_iff _ _).mpr ⟨hold.1 ▸ hget, hold.2⟩)
    | none =>
        have hhead : (livePathsOf routes subnet).head? = some nextHop := by
          simpa [hget] using hnext.1
        exact List.mem_of_mem_head? hhead
  · intro subnet hmark
    rw [Router.isWithdrawn_adopt, Bool.and_eq_true] at hmark
    exact h.room subnet hmark.1
  · intro subnet hget
    rw [Router.get?_adopt, hfirst, Option.or_eq_none_iff] at hget
    exact List.head?_eq_none_iff.mp hget.2

end DesiredTable

end RouteKeeper
