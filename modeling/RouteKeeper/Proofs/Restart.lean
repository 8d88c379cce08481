import RouteKeeper.Proofs.SinglePath

/-!
# Routers that follow one another

A backend outlives the routers that program it. A new router knows nothing, so it recovers
what is installed before it serves, and it may be dropped at any moment: between two
requests or in the middle of one, with a route deleted and not written again, or written
and not recorded.

## Implementation notes

A router that is dropped takes the withdrawn marks with it. What survives every drop is the
bound on the number of paths alone; the next recovery builds the cover from it again.
-/

namespace RouteKeeper

/-- What can be reached over one backend: the router that is up, if one is, and the backend.
Every moment of a request is one at which the router can be dropped. -/
inductive Incarnations {σ ε : Type} (x : Site σ ε) (start : σ) : Option Router → σ → Prop where
  /-- At first no router is up. -/
  | initial : Incarnations x start none start
  /-- A new router comes up by a recovery that succeeds. -/
  | recovered {s : σ} (interval started now count : Nat)
      (h : Incarnations x start none s)
      (hok : (Router.recover.run x.server now (.start interval started) s).1 = .ok count) :
      Incarnations x start (some (Router.recover.run x.server now (.start interval started) s).2.1)
        (Router.recover.run x.server now (.start interval started) s).2.2
  /-- A router is dropped in the course of its recovery. -/
  | recoveryDropped {s : σ} (interval started now n : Nat) (h : Incarnations x start none s) :
      Incarnations x start none
        (Router.recover.cutOff x.server now n (.start interval started) s).2
  /-- The router serves a request to its end. -/
  | served {s : σ} {r : Router} (q : Request) (now : Nat) (h : Incarnations x start (some r) s) :
      Incarnations x start (some ((q.work x.mode).run x.server now r s).2.1)
        ((q.work x.mode).run x.server now r s).2.2
  /-- The router is dropped after some steps of a request. -/
  | dropped {s : σ} {r : Router} (q : Request) (now n : Nat)
      (h : Incarnations x start (some r) s) :
      Incarnations x start none ((q.work x.mode).cutOff x.server now n r s).2
  /-- Something happens to the backend from outside. -/
  | interfered {s : σ} {router : Option Router} (e : ε) (h : Incarnations x start router s) :
      Incarnations x start router (x.change e s)

namespace Incarnations

variable {σ ε : Type} {x : Site σ ε} {routesOf : σ → List InstalledRoute}
  {bound : Network → Nat} {start s : σ} {router : Option Router}

/-- What is kept from one moment to the next: without a router the bound, with one the cover. -/
def Kept (bound : Network → Nat) (routes : List InstalledRoute) : Option Router → Prop
  | none => PathsWithin bound routes
  | some r => r.desired.Covers bound routes

theorem Kept.pathsWithin {routes : List InstalledRoute} (h : Kept bound routes router) :
    PathsWithin bound routes := by
  cases router with
  | none => exact h
  | some r =>
      have hcovers : r.desired.Covers bound routes := h
      exact hcovers.toPathsWithin

/-- Whatever routers do and wherever they are dropped, the bound holds, and so does the cover
of the router that is up. -/
theorem kept (hmode : x.mode = .vpp) (hconforms : Dataplane.Conforms .vpp x.server routesOf)
    (hbound : ∀ subnet, 0 < bound subnet)
    (hchange : ∀ e s, routesOf (x.change e s) = routesOf s)
    (hstart : PathsWithin bound (routesOf start)) (h : Incarnations x start router s) :
    Kept bound (routesOf s) router := by
  have hrecovery (interval started now : Nat) {s : σ} (hs : PathsWithin bound (routesOf s)) :=
    (Router.recover_ensures hconforms hs.empty_backs : Router.recover.Ensures x.server now _ _
      (.start interval started) s)
  induction h with
  | initial => exact hstart
  | recovered interval started now count _ hok ih =>
      have hcovers := (hrecovery interval started now ih).run
      rw [hok] at hcovers
      exact hcovers
  | recoveryDropped interval started now n _ ih =>
      exact (hrecovery interval started now ih).cutOff n
  | served q now _ ih =>
      rw [hmode]
      exact (q.work_ensures hconforms hbound ih).run
  | dropped q now n _ ih =>
      rw [hmode]
      exact (q.work_ensures hconforms hbound ih).cutOff n
  | interfered e _ ih =>
      rw [hchange]
      exact ih

end Incarnations

/-- **Restarts add no path.** However many routers follow one another, whichever calls fail
and wherever a router is dropped, a subnet has at most the paths it started with, or one; and
what a router that is up holds for recorded and not withdrawn is live. -/
theorem restarts_keep_paths {γ : Type} (guard : Dataplane.Call → γ → Option Failure × γ)
    {start s : γ × Recording} {router : Option Router}
    (hcanonical : ∀ r ∈ start.2.installed, r.Canonical)
    (h : Incarnations (Recording.site .vpp guard) start router s) (subnet : Network) :
    (s.2.livePaths subnet).length ≤ max 1 (start.2.livePaths subnet).length ∧
    ∀ r nextHop, router = some r → r.desired.get? subnet = some nextHop →
      r.desired.isWithdrawn subnet = false → nextHop ∈ s.2.livePaths subnet := by
  have hconforms : Dataplane.Conforms .vpp (Recording.site .vpp guard).server
      fun s => s.2.installed := (Dataplane.recording_conforms .vpp).guarded guard
  let bound : Network → Nat := fun subnet => max 1 (start.2.livePaths subnet).length
  have hbound (subnet : Network) : 0 < bound subnet :=
    Nat.lt_of_lt_of_le Nat.one_pos (Nat.le_max_left ..)
  have hstart : PathsWithin bound start.2.installed :=
    ⟨hcanonical, fun _ => Nat.le_max_right ..⟩
  have hkept := Incarnations.kept rfl hconforms hbound Interference.installed_apply hstart h
  refine ⟨hkept.pathsWithin.le subnet, ?_⟩
  rintro r nextHop rfl hget hmark
  have hcovers : r.desired.Covers bound s.2.installed := hkept
  exact hcovers.live subnet nextHop
    ((DesiredTable.liveHop?_eq_some_iff _ _).mpr ⟨hget, hmark⟩)

/-- A destination with two leftover paths. -/
private def leftovers : Unit × Recording :=
  ((), { installed := [1, 5].map fun n =>
    ⟨some (.host (.ofOctets 10 1 0 7)), some (.ofOctets 192 168 3 n), none⟩ })

/-- Of two leftover paths the first is recovered and deleted by an injection that is dropped
before its write; the next router recovers the second, and the same injection replaces it. -/
theorem restarts_keep_paths_of_leftovers :
    ∃ r s, Incarnations (Recording.site .vpp fun _ g => (none, g)) leftovers (some r) s ∧
      s.2.livePaths (.host (.ofOctets 10 1 0 7)) = [.ofOctets 192 168 3 9] ∧
      (∀ subnet, (s.2.livePaths subnet).length ≤
        max 1 (leftovers.2.livePaths subnet).length) := by
  let q : Request := .inject "10.1.0.7/32" "192.168.3.9"
  have hcanonical : ∀ r ∈ leftovers.2.installed, r.Canonical := by decide
  have hinitial : Incarnations (Recording.site .vpp fun _ g => (none, g)) leftovers none _ :=
    .initial
  have hfirst := hinitial.recovered 30000 0 0 1 rfl
  have hsecond := (hfirst.dropped q 5 2).recovered 30000 9 9 1 rfl
  have h := hsecond.served q 12
  have hkept := restarts_keep_paths (fun _ g => (none, g)) hcanonical h
  exact ⟨_, _, h, rfl, fun subnet => (hkept subnet).1⟩

end RouteKeeper
