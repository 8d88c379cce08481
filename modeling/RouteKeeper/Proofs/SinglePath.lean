import RouteKeeper.Proofs.Injection

/-!
# One path for a destination

A router over a recording dataplane that starts without routes keeps table and backend
equal: the live paths of a subnet are the recorded next hop alone, or none if nothing is
recorded or the route is withdrawn. Calls may fail in any pattern, as long as a failing
call has no effect.
-/

namespace RouteKeeper

open Recording

variable {σ : Type} {server : Server dataplane σ} {routesOf : σ → List InstalledRoute}
  {bound : Network → Nat}

/-- With a bound of one, a cover leaves no choice: the live paths are what the table says. -/
theorem DesiredTable.Covers.livePathsOf_eq {t : DesiredTable} {routes : List InstalledRoute}
    (h : t.Covers (fun _ => 1) routes) (subnet : Network) :
    livePathsOf routes subnet = (t.liveHop? subnet).toList := by
  cases hlive : t.liveHop? subnet with
  | none =>
      have hroom : (livePathsOf routes subnet).length < 1 :=
        h.room_of_liveHop?_eq_none Nat.one_pos hlive
      exact List.eq_nil_of_length_eq_zero (Nat.lt_one_iff.mp hroom)
  | some nextHop =>
      have hmem := h.live subnet nextHop hlive
      have hle := h.le subnet
      match hpaths : livePathsOf routes subnet with
      | [] => simp [hpaths] at hmem
      | [only] => simpa [hpaths, eq_comm] using hmem
      | _ :: _ :: _ => simp [hpaths] at hle

/-- Every request keeps the cover, and at each of its moments the bound. -/
theorem Request.work_ensures {now : Nat} {r : Router} {s : σ}
    (hconforms : Dataplane.Conforms .vpp server routesOf) (hbound : ∀ subnet, 0 < bound subnet)
    (hcovers : r.desired.Covers bound (routesOf s)) (q : Request) :
    (q.work .vpp).Ensures server now (fun _ s => PathsWithin bound (routesOf s))
      (fun _ r s => r.desired.Covers bound (routesOf s)) r s := by
  cases q with
  | inject subnetText nextHopText =>
      refine .bind ((Router.injectRoute_ensures hconforms hbound hcovers _ _).mono
        (fun _ _ h => h) ?_)
      exact fun _ _ _ h => ⟨h.toPathsWithin, h⟩
  | reconcile =>
      refine .bind ((Router.reconcileNow_ensures hcovers).mono (fun _ _ h => h) ?_)
      exact fun _ _ _ h => ⟨h.toPathsWithin, h⟩
  | recover =>
      refine .bind ((Router.recover_ensures hconforms hcovers.toBacks).mono (fun _ _ h => h) ?_)
      rintro (failure | count) r' s' h
      · obtain ⟨rfl, hroutes⟩ := h
        rw [← hroutes] at hcovers
        exact ⟨hcovers.toPathsWithin, hcovers⟩
      · exact ⟨h.toPathsWithin, h⟩

/-- A cover lasts for a whole session in which outside events leave the routes alone. -/
theorem Site.run_covers {ε : Type} {x : Site σ ε} {s : Session σ} (hmode : x.mode = .vpp)
    (hconforms : Dataplane.Conforms .vpp x.server routesOf) (hbound : ∀ subnet, 0 < bound subnet)
    (hchange : ∀ e s, routesOf (x.change e s) = routesOf s)
    (hcovers : s.router.desired.Covers bound (routesOf s.backend)) (events : List (Event ε)) :
    (x.run events s).router.desired.Covers bound (routesOf (x.run events s).backend) := by
  refine Site.run_induction (x := x) (s := s)
    (P := fun s => s.router.desired.Covers bound (routesOf s.backend)) hcovers ?_ events
  intro s e hcovers
  cases e with
  | request q =>
      simp only [Site.step, Site.serve, hmode]
      exact (q.work_ensures hconforms hbound hcovers).run
  | advance duration => exact hcovers
  | outside e =>
      rw [← hchange e] at hcovers
      exact hcovers

/-- The empty table covers a backend without routes. -/
theorem DesiredTable.empty_covers_nil : DesiredTable.empty.Covers bound [] where
  toBacks := PathsWithin.empty_backs ⟨by simp, by simp [livePathsOf]⟩
  known _ _ := rfl

/-- **One path, exactly.** After any events in VPP mode, the live paths of a subnet are its
recorded next hop alone if it is recorded and not withdrawn, and none otherwise; and at no
moment of a request that follows has a subnet more than one path. -/
theorem livePaths_eq_recorded {γ : Type} (guard : Dataplane.Call → γ → Option Failure × γ)
    (g : γ) (r : Recording) (interval start : Nat) (events : List (Event (Interference γ)))
    (subnet : Network) :
    let x := Recording.site .vpp guard
    let s := x.run events (.start interval start (g, { r with installed := [] }))
    (s.backend.2.livePaths subnet =
      match s.router.desired.get? subnet, s.router.desired.isWithdrawn subnet with
      | some nextHop, false => [nextHop]
      | _, _ => []) ∧
    ∀ (q : Request) (n : Nat),
      (((q.work .vpp).cutOff x.server s.now n s.router s.backend).2.2.livePaths subnet).length
        ≤ 1 := by
  intro x s
  have hconforms : Dataplane.Conforms .vpp x.server fun s => s.2.installed :=
    (Dataplane.recording_conforms .vpp).guarded guard
  have hcovers : s.router.desired.Covers (fun _ => 1) s.backend.2.installed :=
    Site.run_covers rfl hconforms (fun _ => Nat.one_pos) Interference.installed_apply
      DesiredTable.empty_covers_nil events
  constructor
  · rw [livePaths, hcovers.livePathsOf_eq, DesiredTable.liveHop?]
    cases s.router.desired.get? subnet <;> cases s.router.desired.isWithdrawn subnet <;> rfl
  · intro q n
    exact ((q.work_ensures hconforms (fun _ => Nat.one_pos) hcovers).cutOff n).le subnet

end RouteKeeper
