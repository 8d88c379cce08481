import RouteKeeper.Proofs.Coverage
import RouteKeeper.Proofs.Session
import RouteKeeper.Proofs.Task.Assertion

/-!
# Requests on a dataplane that adds

Over any dataplane that conforms to the VPP mode, each request takes a table that covers the
routes to a table that covers them. No moment of a request has more paths than the bound
allows, so the same is true of a request that is dropped half way.
-/

namespace RouteKeeper.Router

open Recording Dataplane

variable {σ : Type} {server : Server dataplane σ} {routesOf : σ → List InstalledRoute}
  {bound : Network → Nat} {now : Nat} {r : Router} {s : σ} {intent : Intent}

/-- A due pass in VPP mode is a step of the clock. -/
theorem reconcileIfDue_vpp_ensures {during : Router → σ → Prop}
    (h : ∀ clock, during { r with clock } s) :
    (reconcileIfDue .vpp now r).Ensures server now during
      (fun r' state s' => (∃ clock, r' = { r with clock }) ∧ state = r' ∧ s' = s) r s := by
  unfold reconcileIfDue
  split
  · exact ⟨h r.clock, h _, ⟨_, rfl⟩, rfl, rfl⟩
  · exact ⟨h r.clock, ⟨r.clock, rfl⟩, rfl, rfl⟩

/-- A write into the room of its subnet ends with a table that covers the routes. -/
theorem writeAndRecord_ensures (hconforms : Conforms .vpp server routesOf)
    (hi : intent.Canonical) (hcovers : r.desired.Covers bound (routesOf s))
    (hroom : (livePathsOf (routesOf s) intent.subnet).length < bound intent.subnet) :
    (writeAndRecord intent r).Ensures server now (fun _ s => PathsWithin bound (routesOf s))
      (fun _ r s => r.desired.Covers bound (routesOf s)) r s := by
  refine ⟨hcovers.toPathsWithin, ?_⟩
  rcases hconforms.upsert intent s with ⟨failure, hanswer, hroutes⟩ | ⟨hanswer, hroutes⟩
  · rw [hanswer]
    have hafter : r.desired.Covers bound (routesOf (server (.upsert intent) s).2) :=
      hroutes ▸ hcovers
    exact ⟨hafter.toPathsWithin, hafter⟩
  · rw [hanswer]
    have hafter : (r.desired.record intent).Covers bound
        (routesOf (server (.upsert intent) s).2) := hroutes ▸ hcovers.write_record hi hroom
    exact ⟨hafter.toPathsWithin, hafter.toPathsWithin, hafter⟩

/-- When the way is clear, the subnet has room for the write that follows. -/
theorem clearTheWay_ensures (hconforms : Conforms .vpp server routesOf)
    (hi : intent.Canonical) (hbound : 0 < bound intent.subnet)
    (hcovers : r.desired.Covers bound (routesOf s)) :
    (clearTheWay .vpp intent r).Ensures server now (fun _ s => PathsWithin bound (routesOf s))
      (fun result r s => r.desired.Covers bound (routesOf s) ∧
        ∀ r', result = .ok r' → r' = r ∧
          (livePathsOf (routesOf s) intent.subnet).length < bound intent.subnet) r s := by
  unfold clearTheWay
  cases hget : r.desired.get? intent.subnet with
  | none =>
      have hroom := hcovers.room_of_liveHop?_eq_none hbound
        (by simp [DesiredTable.liveHop?, hget])
      exact ⟨hcovers.toPathsWithin, hcovers, fun r' hr' => ⟨(Except.ok.inj hr').symm, hroom⟩⟩
  | some old =>
      cases hmark : r.desired.isWithdrawn intent.subnet with
      | true =>
          have hroom := hcovers.room intent.subnet hmark
          exact ⟨hcovers.toPathsWithin, hcovers, fun r' hr' => ⟨(Except.ok.inj hr').symm, hroom⟩⟩
      | false =>
          have hlive : r.desired.liveHop? intent.subnet = some old := by
            simp [DesiredTable.liveHop?, hget, hmark]
          have herase : erase .vpp (.of intent.subnet old) (routesOf s) =
              erase .vpp ⟨intent.subnet, old⟩ (routesOf s) := by
            rw [Intent.of, hi.truncate_eq]
          simp only [Mode.replacesRoutes, Bool.or_self, Bool.false_eq_true, if_false]
          refine ⟨hcovers.toPathsWithin, ?_⟩
          rcases hconforms.delete (.of intent.subnet old) s with
            ⟨failure, hanswer, hroutes⟩ | ⟨hanswer, hroutes⟩
          · rw [hanswer]
            have hafter : r.desired.Covers bound
                (routesOf (server (.delete (.of intent.subnet old)) s).2) := hroutes ▸ hcovers
            exact ⟨hafter.toPathsWithin, hafter, fun r' hr' => by cases hr'⟩
          · rw [hanswer]
            have hafter := hcovers.erase_markWithdrawn (i := ⟨intent.subnet, old⟩) hlive
            have hroom := length_livePathsOf_erase_lt (i := ⟨intent.subnet, old⟩)
              hcovers.toPathsWithin (hcovers.live _ _ hlive)
            rw [← herase, ← hroutes] at hafter hroom
            exact ⟨hafter.toPathsWithin, hafter.toPathsWithin, hafter,
              fun r' hr' => ⟨(Except.ok.inj hr').symm, hroom⟩⟩

/-- An injection keeps the cover and, at each of its moments, the bound. -/
theorem inject_ensures (hconforms : Conforms .vpp server routesOf)
    (hi : intent.Canonical) (hbound : 0 < bound intent.subnet)
    (hcovers : r.desired.Covers bound (routesOf s)) :
    (inject .vpp intent).Ensures server now (fun _ s => PathsWithin bound (routesOf s))
      (fun _ r s => r.desired.Covers bound (routesOf s)) r s := by
  rw [inject_eq]
  refine ⟨hcovers.toPathsWithin, .bind ?_⟩
  refine (reconcileIfDue_vpp_ensures fun _ => hcovers.toPathsWithin).mono (fun _ _ h => h) ?_
  rintro _ _ _ ⟨⟨clock, rfl⟩, rfl, rfl⟩
  split
  · exact ⟨hcovers.toPathsWithin, hcovers⟩
  · refine .bind ((clearTheWay_ensures (r := { r with clock }) hconforms hi hbound hcovers).mono
      (fun _ _ h => h) ?_)
    rintro (failure | r') r s ⟨hcovers, hclear⟩
    · exact ⟨hcovers.toPathsWithin, hcovers⟩
    · obtain ⟨rfl, hroom⟩ := hclear r' rfl
      exact writeAndRecord_ensures hconforms hi hcovers hroom

/-- So does an injection of two texts; malformed ones do nothing. -/
theorem injectRoute_ensures (hconforms : Conforms .vpp server routesOf)
    (hbound : ∀ subnet, 0 < bound subnet) (hcovers : r.desired.Covers bound (routesOf s))
    (subnetText nextHopText : String) :
    (injectRoute .vpp subnetText nextHopText).Ensures server now
      (fun _ s => PathsWithin bound (routesOf s))
      (fun _ r s => r.desired.Covers bound (routesOf s)) r s := by
  unfold injectRoute
  cases hparse : Intent.parse subnetText nextHopText with
  | error failure => exact ⟨hcovers.toPathsWithin, hcovers⟩
  | ok intent =>
      exact inject_ensures hconforms (Intent.parse_canonical hparse) (hbound _) hcovers

/-- A pass in VPP mode touches neither routes nor table. -/
theorem reconcileNow_ensures (hcovers : r.desired.Covers bound (routesOf s)) :
    (reconcileNow .vpp).Ensures server now (fun _ s => PathsWithin bound (routesOf s))
      (fun _ r s => r.desired.Covers bound (routesOf s)) r s :=
  ⟨hcovers.toPathsWithin, hcovers.toPathsWithin, hcovers.toPathsWithin, hcovers⟩

/-- A recovery that succeeds needs a table that backs the routes only; one that fails
changes nothing. -/
theorem recover_ensures (hconforms : Conforms .vpp server routesOf)
    (hbacks : r.desired.Backs bound (routesOf s)) :
    recover.Ensures server now (fun _ s => PathsWithin bound (routesOf s))
      (fun result r' s' => match result with
        | .error _ => r' = r ∧ routesOf s' = routesOf s
        | .ok _ => r'.desired.Covers bound (routesOf s')) r s := by
  refine ⟨hbacks.toPathsWithin, ?_⟩
  rcases hconforms.installed s with ⟨failure, hanswer, hroutes⟩ | ⟨hanswer, hroutes⟩
  · rw [hanswer]
    have hwithin : PathsWithin bound (routesOf (server .installed s).2) :=
      hroutes ▸ hbacks.toPathsWithin
    exact ⟨hwithin, rfl, hroutes⟩
  · rw [hanswer]
    have hwithin : PathsWithin bound (routesOf (server .installed s).2) :=
      hroutes ▸ hbacks.toPathsWithin
    have hafter : (adopt r.desired ((routesOf s).filterMap intentOf?)).2.Covers bound
        (routesOf (server .installed s).2) := hroutes ▸ hbacks.adopt
    exact ⟨hwithin, hwithin, hwithin, hafter⟩

end RouteKeeper.Router
