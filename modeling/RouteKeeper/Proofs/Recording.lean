import RouteKeeper.Double.Recording

/-!
# The routes of a dataplane under its calls

A dataplane conforms to a mode when each of its calls either fails and leaves the routes
alone or does to them what a write or a delete of that mode does. The recording dataplane
conforms, and it still does when something before it makes calls fail.

## Implementation notes

What the router is proved to keep is proved for every conforming dataplane. Which calls
fail, and why, is then of no concern to those proofs.
-/

namespace RouteKeeper

/-- A route is canonical when its destination has no host bits. -/
def InstalledRoute.Canonical (r : InstalledRoute) : Prop :=
  ∀ n ∈ r.destination, n.Canonical

instance (r : InstalledRoute) : Decidable r.Canonical :=
  inferInstanceAs (Decidable (∀ n ∈ r.destination, n.Canonical))

namespace Recording

variable (i : Intent) (routes : List InstalledRoute) (subnet : Network)

theorem mem_livePathsOf {gateway : Address} :
    gateway ∈ livePathsOf routes subnet ↔
      ∃ r ∈ routes, r.destination = some subnet ∧ r.gateway = some gateway := by
  simp [livePathsOf, and_assoc]

/-- In VPP mode a write adds one path at the end. -/
theorem livePathsOf_write :
    livePathsOf (write .vpp i routes) subnet =
      livePathsOf routes subnet ++ if i.subnet = subnet then [i.nextHop] else [] := by
  by_cases h : i.subnet = subnet
  · simp [livePathsOf, write, Mode.replacesRoutes, routeOf, h]
  · simp [livePathsOf, write, Mode.replacesRoutes, routeOf, h]

/-- In kernel mode a write leaves the written path as the only one. -/
theorem livePathsOf_write_kernel :
    livePathsOf (write .kernel i routes) subnet =
      if i.subnet = subnet then [i.nextHop] else livePathsOf routes subnet := by
  by_cases h : i.subnet = subnet
  · simp [livePathsOf, write, Mode.replacesRoutes, routeOf, h, List.filter_filter]
  · have hkept (r : InstalledRoute) :
        (r.destination == some subnet && r.destination != some i.subnet) =
          (r.destination == some subnet) := by
      by_cases hr : r.destination = some subnet
      · simp [hr, Ne.symm h]
      · simp [hr]
    simp [livePathsOf, write, Mode.replacesRoutes, routeOf, h, List.filter_filter, hkept]

private theorem livePathsOf_eq_filterMap :
    livePathsOf routes subnet =
      routes.filterMap fun r => if r.destination = some subnet then r.gateway else none := by
  simp [livePathsOf, List.filterMap_filter]

/-- In VPP mode a delete takes away every path through its next hop. -/
theorem livePathsOf_erase :
    livePathsOf (erase .vpp i routes) subnet =
      if i.subnet = subnet then (livePathsOf routes subnet).filter (· ≠ i.nextHop)
      else livePathsOf routes subnet := by
  simp only [livePathsOf_eq_filterMap, erase, Mode.replacesRoutes, Bool.false_eq_true, if_false,
    List.filterMap_filter, List.filter_filterMap]
  by_cases hi : i.subnet = subnet
  · rw [if_pos hi]
    congr 1
    funext r
    cases r.gateway <;> grind
  · rw [if_neg hi]
    congr 1
    funext r
    grind

/-- Writes of canonical intents keep routes canonical. -/
theorem canonical_write {mode : Mode} {i : Intent} {routes : List InstalledRoute}
    (hi : i.Canonical) (h : ∀ r ∈ routes, r.Canonical) :
    ∀ r ∈ write mode i routes, r.Canonical := by
  have hnew : (routeOf i).Canonical := fun n hn => Option.some.inj hn ▸ hi
  intro r hr
  cases mode with
  | vpp =>
      rcases List.mem_append.mp hr with hr | hr
      · exact h r hr
      · exact List.mem_singleton.mp hr ▸ hnew
  | kernel =>
      rcases List.mem_append.mp hr with hr | hr
      · exact h r (List.mem_filter.mp hr).1
      · exact List.mem_singleton.mp hr ▸ hnew

theorem canonical_erase {mode : Mode} {routes : List InstalledRoute}
    (h : ∀ r ∈ routes, r.Canonical) : ∀ r ∈ erase mode i routes, r.Canonical := by
  intro r hr
  cases mode with
  | vpp => exact h r (List.mem_filter.mp hr).1
  | kernel => exact h r hr

/-- A write of a failing subnet is noted and refused. -/
theorem server_upsert_failing {mode : Mode} {i : Intent} {r : Recording}
    (h : i.subnet ∈ r.failing) :
    server mode (.upsert i) r = (.error (refusal mode i), r.note (.upsert i)) :=
  if_pos (List.contains_iff_mem.mpr h)

/-- Any other write is noted and carried out. -/
theorem server_upsert {mode : Mode} {i : Intent} {r : Recording} (h : i.subnet ∉ r.failing) :
    server mode (.upsert i) r =
      (.ok (), { r.note (.upsert i) with installed := write mode i r.installed }) :=
  if_neg (mt List.contains_iff_mem.mp h)

end Recording

namespace Dataplane

variable {σ γ : Type}

/-- A call that fails leaves the routes alone; one that succeeds returns `result` and leaves
the routes `after`. -/
def Effect (server : Server dataplane σ) (routesOf : σ → List InstalledRoute) (c : Call) (s : σ)
    (result : Result c) (after : List InstalledRoute) : Prop :=
  (∃ failure, (server c s).1 = .error failure ∧ routesOf (server c s).2 = routesOf s) ∨
    (server c s).1 = .ok result ∧ routesOf (server c s).2 = after

section

variable {server : Server dataplane σ} {routesOf : σ → List InstalledRoute} {c : Call} {s : σ}
  {result : Result c} {after : List InstalledRoute}

theorem Effect.of_failed (h : Effect server routesOf c s result after)
    (hfailed : (server c s).1.isOk = false) :
    ∃ failure, (server c s).1 = .error failure ∧ routesOf (server c s).2 = routesOf s := by
  rcases h with hfailure | ⟨hanswer, -⟩
  · exact hfailure
  · rw [hanswer] at hfailed
    cases hfailed

theorem Effect.of_ok (h : Effect server routesOf c s result after)
    (hok : (server c s).1.isOk = true) :
    (server c s).1 = .ok result ∧ routesOf (server c s).2 = after := by
  rcases h with ⟨failure, hanswer, -⟩ | hsuccess
  · rw [hanswer] at hok
    cases hok
  · exact hsuccess

end

/-- Every call of the router fails without effect or does what the mode says. -/
structure Conforms (mode : Mode) (server : Server dataplane σ)
    (routesOf : σ → List InstalledRoute) : Prop where
  upsert (i : Intent) (s : σ) :
    Effect server routesOf (.upsert i) s () (Recording.write mode i (routesOf s))
  delete (i : Intent) (s : σ) :
    Effect server routesOf (.delete i) s () (Recording.erase mode i (routesOf s))
  installed (s : σ) : Effect server routesOf .installed s (routesOf s) (routesOf s)

/-- The recording dataplane conforms to its mode. -/
theorem recording_conforms (mode : Mode) :
    Conforms mode (Recording.server mode) Recording.installed where
  upsert i r := by
    by_cases h : i.subnet ∈ r.failing
    · rw [Effect, Recording.server_upsert_failing h]
      exact Or.inl ⟨_, rfl, rfl⟩
    · rw [Effect, Recording.server_upsert h]
      exact Or.inr ⟨rfl, rfl⟩
  delete i r := Or.inr ⟨rfl, rfl⟩
  installed r := Or.inr ⟨rfl, rfl⟩

theorem Effect.guarded {server : Server dataplane σ} {routesOf : σ → List InstalledRoute}
    {c : Call} {s : σ} {result : Result c} {after : List InstalledRoute}
    (h : Effect server routesOf c s result after) (guard : Call → γ → Option Failure × γ) (g : γ) :
    Effect (Server.guarded guard server) (fun s => routesOf s.2) c (g, s) result after := by
  cases hg : guard c g with
  | mk fault g' =>
      cases fault with
      | some failure => exact Or.inl ⟨failure, by simp [Server.guarded, hg]⟩
      | none => simpa [Effect, Server.guarded, hg] using h

/-- Calls that are kept from a conforming dataplane fail without effect. -/
theorem Conforms.guarded {mode : Mode} {server : Server dataplane σ}
    {routesOf : σ → List InstalledRoute} (h : Conforms mode server routesOf)
    (guard : Call → γ → Option Failure × γ) :
    Conforms mode (Server.guarded guard server) (fun s => routesOf s.2) where
  upsert i s := (h.upsert i s.2).guarded guard s.1
  delete i s := (h.delete i s.2).guarded guard s.1
  installed s := (h.installed s.2).guarded guard s.1

end Dataplane

end RouteKeeper
