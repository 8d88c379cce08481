import RouteKeeper.Proofs.FailedWrite

/-!
# What a failed injection leaves

An injection that fails has changed at most one thing after its pass: where the recorded route was
deleted and the write failed, the paths through the recorded next hop are gone and the subnet is
marked withdrawn. Next hops are never touched, and texts that are not read change nothing at all.
-/

namespace RouteKeeper

open Dataplane

/-- Some call of a trace deletes the route of the intent and succeeds. -/
def Deletes {σ : Type} (i : Intent) (trace : List (Moment dataplane Router σ)) : Prop :=
  ∃ m ∈ trace, m.call = .delete i ∧ m.ok = true

section

variable {σ : Type} {i : Intent} {trace trace' : List (Moment dataplane Router σ)}

theorem deletes_append : Deletes i (trace ++ trace') ↔ Deletes i trace ∨ Deletes i trace' := by
  simp only [Deletes, List.mem_append, or_and_right, exists_or]

theorem not_deletes_of_forall (h : ∀ m ∈ trace, ∀ j, m.call ≠ .delete j) : ¬Deletes i trace := by
  rintro ⟨m, hm, hcall, -⟩
  exact h m hm i hcall

end

/-- What is left of the table and of the routes when an intent is not fulfilled: all of it, or,
once the old route is deleted, all but its paths, with the subnet marked. -/
inductive Leaves {σ : Type} (mode : Mode) (i : Intent) (r : Router) (routes : List InstalledRoute)
    (trace : List (Moment dataplane Router σ)) : Router → List InstalledRoute → Prop
  /-- No delete succeeded. -/
  | everything (h : ∀ old, ¬Deletes ⟨i.subnet, old⟩ trace) : Leaves mode i r routes trace r routes
  /-- The recorded route was deleted, and no other. -/
  | allButOld {old : Address} (hmode : mode = .vpp) (hget : r.desired.get? i.subnet = some old)
      (h : ∀ hop, Deletes ⟨i.subnet, hop⟩ trace ↔ hop = old) :
      Leaves mode i r routes trace { r with desired := r.desired.markWithdrawn i.subnet }
        (Recording.erase .vpp ⟨i.subnet, old⟩ routes)

namespace Leaves

variable {σ : Type} {mode : Mode} {i : Intent} {r r' : Router}
  {routes routes' : List InstalledRoute} {trace : List (Moment dataplane Router σ)}
  (h : Leaves mode i r routes trace r' routes')
include h

/-- Next hops are not touched. -/
theorem routes_eq : r'.desired.routes = r.desired.routes := by
  cases h with
  | everything => rfl
  | allButOld _ _ _ =>
      rw [DesiredTable.markWithdrawn]
      split
      · rfl
      · rfl

/-- The clock is not touched. -/
theorem clock_eq : r'.clock = r.clock := by
  cases h with
  | everything => rfl
  | allButOld => rfl

/-- Marks of other subnets are not touched. -/
theorem isWithdrawn_of_ne {subnet : Network} (hne : subnet ≠ i.subnet) :
    r'.desired.isWithdrawn subnet = r.desired.isWithdrawn subnet := by
  cases h with
  | everything => rfl
  | allButOld _ _ _ => exact DesiredTable.isWithdrawn_markWithdrawn_of_ne _ _ hne

/-- The subnet is marked when it was before or its route was deleted. -/
theorem isWithdrawn_iff :
    r'.desired.isWithdrawn i.subnet = true ↔
      r.desired.isWithdrawn i.subnet = true ∨ ∃ old, Deletes ⟨i.subnet, old⟩ trace := by
  cases h with
  | everything hnone =>
      constructor
      · exact Or.inl
      · rintro (hmark | ⟨old, hdeletes⟩)
        · exact hmark
        · exact absurd hdeletes (hnone old)
  | @allButOld old hmode hget hdeletes =>
      have hmarked : (r.desired.markWithdrawn i.subnet).isWithdrawn i.subnet = true := by
        simp [DesiredTable.isWithdrawn_markWithdrawn, hget]
      exact iff_of_true hmarked (Or.inr ⟨old, (hdeletes old).mpr rfl⟩)

/-- The routes are the same unless the recorded route was deleted. -/
theorem routes_cases :
    (∀ old, ¬Deletes ⟨i.subnet, old⟩ trace) ∧ routes' = routes ∨
      ∃ old, mode = .vpp ∧ r.desired.get? i.subnet = some old ∧ Deletes ⟨i.subnet, old⟩ trace ∧
        routes' = routes.filter fun route =>
          !(route.destination == some i.subnet && route.gateway == some old) := by
  cases h with
  | everything hnone => exact Or.inl ⟨hnone, rfl⟩
  | @allButOld old hmode hget hdeletes =>
      refine Or.inr ⟨old, hmode, hget, (hdeletes old).mpr rfl, ?_⟩
      refine List.filter_congr fun route _ => ?_
      rw [Bool.not_and]
      rfl

/-- Calls before that delete nothing do not matter. -/
theorem prepend {before : List (Moment dataplane Router σ)}
    (hbefore : ∀ m ∈ before, ∀ j, m.call ≠ .delete j) :
    Leaves mode i r routes (before ++ trace) r' routes' := by
  have hsame (hop : Address) :
      Deletes ⟨i.subnet, hop⟩ (before ++ trace) ↔ Deletes ⟨i.subnet, hop⟩ trace := by
    rw [deletes_append]
    exact or_iff_right (not_deletes_of_forall hbefore)
  cases h with
  | everything hnone =>
      apply Leaves.everything
      intro old
      rw [hsame]
      exact hnone old
  | allButOld hmode hget hdeletes =>
      apply Leaves.allButOld hmode hget
      intro hop
      rw [hsame]
      exact hdeletes hop

end Leaves

namespace Router

variable {σ : Type} {server : Server dataplane σ} {routesOf : σ → List InstalledRoute}
  {mode : Mode} {now : Nat} {i : Intent} {r : Router} {s : σ} {failure : Failure}

/-- A write that fails leaves the table that was saved before it, and the routes. -/
theorem writeAndRecord_leaves (hconforms : Conforms mode server routesOf)
    (h : ((writeAndRecord i r).run server now r s).1 = .error failure) :
    ((writeAndRecord i r).run server now r s).2.1 = r ∧
      routesOf ((writeAndRecord i r).run server now r s).2.2 = routesOf s := by
  have hanswer : (server (.upsert i) s).1 = .error failure := writeAndRecord_failed h
  have hroutes : routesOf (server (.upsert i) s).2 = routesOf s := by
    obtain ⟨_, -, hroutes⟩ := (hconforms.upsert i s).of_failed (by rw [hanswer]; rfl)
    exact hroutes
  simp only [writeAndRecord, Task.run, hanswer]
  exact ⟨rfl, hroutes⟩

/-- A fulfilment that fails leaves everything, or everything but the old route. -/
theorem fulfil_leaves (hconforms : Conforms mode server routesOf) (hi : i.Canonical)
    (h : ((fulfil mode i r).run server now r s).1 = .error failure) :
    Leaves mode i r (routesOf s) ((fulfil mode i r).trace server now r s)
      ((fulfil mode i r).run server now r s).2.1
      (routesOf ((fulfil mode i r).run server now r s).2.2) := by
  unfold fulfil at h ⊢
  split at h
  case isTrue hcurrent => cases h
  case isFalse hcurrent =>
    rw [if_neg hcurrent]
    cases hstale : stale? mode i r with
    | none =>
        simp only [hstale] at h ⊢
        obtain ⟨hrouter, hroutes⟩ := writeAndRecord_leaves hconforms h
        rw [hrouter, hroutes, trace_writeAndRecord]
        apply Leaves.everything
        intro old
        simp [Deletes]
    | some stale =>
        obtain ⟨old, rfl, rfl, hget⟩ := stale?_eq_some hi hstale
        simp only [hstale, Task.run, Task.trace] at h ⊢
        rcases hconforms.delete ⟨i.subnet, old⟩ s with ⟨cause, hanswer, hroutes⟩ |
          ⟨hanswer, hroutes⟩
        · -- The delete is the last call, and it has failed.
          simp only [hanswer, Task.run, Task.trace] at h ⊢
          rw [hroutes]
          apply Leaves.everything
          intro hop
          simp [Deletes, Except.isOk, Except.toBool]
        · simp only [hanswer, Task.run, Task.trace] at h ⊢
          obtain ⟨hrouter, hwritten⟩ := writeAndRecord_leaves hconforms h
          rw [hrouter, hwritten, hroutes, trace_writeAndRecord]
          apply Leaves.allButOld rfl hget
          intro hop
          constructor
          · rintro ⟨m, hm, hcall, -⟩
            rcases List.mem_cons.mp hm with rfl | hm
            · injection hcall with hsame
              exact (congrArg Intent.nextHop hsame).symm
            · obtain rfl := List.mem_singleton.mp hm
              cases hcall
          · rintro rfl
            exact ⟨_, List.mem_cons_self, rfl, rfl⟩

/-- A pass deletes nothing. -/
theorem pass_deletes_nothing (t : DesiredTable) (state : Router) :
    ∀ m ∈ (Task.ofProgram (Reconciliation.pass mode t)).trace server now state s,
      ∀ j, m.call ≠ .delete j := by
  intro m hm j hcall
  cases mode with
  | vpp => cases hm
  | kernel =>
      have hdetects : Mode.kernel.detectsDrift = true := rfl
      rw [ofProgram_pass, if_pos hdetects, Task.trace] at hm
      rcases List.mem_cons.mp hm with rfl | hm
      · cases hcall
      · cases hanswer : (server .installed s).1 with
        | error failure =>
            rw [hanswer] at hm
            cases hm
        | ok installed =>
            rw [hanswer] at hm
            simp only [Task.trace_bind, Task.trace, List.append_nil] at hm
            have hcalls := List.mem_map_of_mem (f := (·.call)) hm
            rw [Reconciliation.calls_repair, hcall] at hcalls
            obtain ⟨_, -, hwrite⟩ := List.mem_map.mp hcalls
            cases hwrite

end Router

section

variable {σ ε : Type} (x : Site σ ε) (s : Session σ)

/-- The session after the pass that an injection begins with, as it was if no pass is due. -/
def Site.afterPass : Session σ :=
  if s.router.clock.isDue s.now then
    { s with
      router := { s.router with clock := s.router.clock.mark s.now }
      backend := ((Task.ofProgram (Reconciliation.pass x.mode s.router.desired)).run x.server s.now
        s.router s.backend).2.2 }
  else s

/-- The pass touches neither the desired routes nor their marks. -/
theorem Site.afterPass_desired : (x.afterPass s).router.desired = s.router.desired := by
  unfold afterPass
  split
  · rfl
  · rfl

/-- The pass takes no time. -/
theorem Site.afterPass_now : (x.afterPass s).now = s.now := by
  unfold afterPass
  split
  · rfl
  · rfl

theorem Site.run_reconcileIfDue :
    (Router.reconcileIfDue x.mode s.now s.router).run x.server s.now s.router s.backend =
      ((x.afterPass s).router, (x.afterPass s).router, (x.afterPass s).backend) := by
  unfold afterPass
  split
  case isTrue hdue => exact Router.run_reconcileIfDue_of_due hdue _
  case isFalse hdue =>
    rw [Router.reconcileIfDue, if_neg hdue]
    rfl

/-- After its pass an injection is a fulfilment. -/
theorem Site.run_inject (i : Intent) :
    (Router.inject x.mode i).run x.server s.now s.router s.backend =
      (Router.fulfil x.mode i (x.afterPass s).router).run x.server s.now (x.afterPass s).router
        (x.afterPass s).backend := by
  rw [Router.inject_eq_fulfil, Task.run, Task.run_bind, x.run_reconcileIfDue]

/-- The calls of an injection are those of its pass and then those of the fulfilment. -/
theorem Site.trace_inject (i : Intent) :
    (Router.inject x.mode i).trace x.server s.now s.router s.backend =
      x.dueCalls s ++ (Router.fulfil x.mode i (x.afterPass s).router).trace x.server s.now
        (x.afterPass s).router (x.afterPass s).backend := by
  rw [Router.inject_eq_fulfil, Task.trace, Task.trace_bind, x.run_reconcileIfDue,
    x.trace_reconcileIfDue]

/-- The calls of the pass delete nothing. -/
theorem Site.dueCalls_delete_nothing : ∀ m ∈ x.dueCalls s, ∀ j, m.call ≠ .delete j := by
  intro m hm
  unfold dueCalls at hm
  split at hm
  · exact Router.pass_deletes_nothing _ _ m hm
  · cases hm

end

/-- An injection that fails leaves what its pass has left, or all of it but the old route. -/
theorem Site.inject_leaves {σ ε : Type} {x : Site σ ε} {routesOf : σ → List InstalledRoute}
    (hconforms : Conforms x.mode x.server routesOf) (s : Session σ) {i : Intent}
    (hi : i.Canonical) {failure : Failure}
    (h : ((Router.inject x.mode i).run x.server s.now s.router s.backend).1 = .error failure) :
    Leaves x.mode i (x.afterPass s).router (routesOf (x.afterPass s).backend)
      ((Router.inject x.mode i).trace x.server s.now s.router s.backend)
      ((Router.inject x.mode i).run x.server s.now s.router s.backend).2.1
      (routesOf ((Router.inject x.mode i).run x.server s.now s.router s.backend).2.2) := by
  rw [x.run_inject] at h ⊢
  rw [x.trace_inject]
  exact (Router.fulfil_leaves hconforms hi h).prepend (x.dueCalls_delete_nothing s)

/-- **What a failed injection leaves.** Over any dataplane of either mode whose failing calls have
no effect, an injection that fails leaves the desired routes exactly as they were. Texts that are
not read call nothing and leave the session as it was, with its clock. Otherwise the marks of other
subnets are kept, the subnet is marked if it was before or its recorded route was deleted, and the
routes are those that the due pass left, without the paths over the recorded next hop if and only
if the delete of that route, in VPP mode, succeeded. -/
theorem failed_injection_leaves_rest {σ ε : Type} {x : Site σ ε}
    {routesOf : σ → List InstalledRoute} (hconforms : Conforms x.mode x.server routesOf)
    (s : Session σ) (subnetText nextHopText : String) {failure : Failure} :
    let q := Request.inject subnetText nextHopText
    let s' := (x.serve q s).2
    let calls := x.callsOf s (.request q)
    let pass := x.afterPass s
    (x.serve q s).1 = .injected (.error failure) →
      s'.router.desired.toList = s.router.desired.toList ∧
      (∀ subnet, s'.router.desired.get? subnet = s.router.desired.get? subnet) ∧
      (Intent.parse subnetText nextHopText = .error failure ∧ calls = [] ∧ s' = s ∨
        ∃ i, Intent.parse subnetText nextHopText = .ok i ∧
          s'.router.clock = pass.router.clock ∧
          (∀ subnet, subnet ≠ i.subnet →
            s'.router.desired.isWithdrawn subnet = s.router.desired.isWithdrawn subnet) ∧
          (s'.router.desired.isWithdrawn i.subnet = true ↔
            s.router.desired.isWithdrawn i.subnet = true ∨
              ∃ old, Deletes ⟨i.subnet, old⟩ calls) ∧
          ((∀ old, ¬Deletes ⟨i.subnet, old⟩ calls) ∧
              routesOf s'.backend = routesOf pass.backend ∨
            ∃ old, x.mode = .vpp ∧ s.router.desired.get? i.subnet = some old ∧
              Deletes ⟨i.subnet, old⟩ calls ∧
              routesOf s'.backend = (routesOf pass.backend).filter fun route =>
                !(route.destination == some i.subnet && route.gateway == some old))) := by
  intro q s' calls pass h
  cases hparse : Intent.parse subnetText nextHopText with
  | error cause =>
      have hwork : q.work x.mode = .done (.injected (.error cause)) := by
        simp only [q, Request.work, Router.injectRoute, hparse]
        rfl
      have hcalls : calls = [] := by
        simp only [calls, Site.callsOf, hwork]
        rfl
      have hsame : s' = s := by
        simp only [s', Site.serve, hwork]
        rfl
      simp only [Site.serve, hwork] at h
      obtain rfl : cause = failure := Except.error.inj (Outcome.injected.inj h)
      rw [hsame]
      exact ⟨rfl, fun _ => rfl, Or.inl ⟨rfl, hcalls, rfl⟩⟩
  | ok i =>
      have hi : i.Canonical := Intent.parse_canonical hparse
      have hwork : q.work x.mode =
          (Router.inject x.mode i).bind fun result => .done (.injected result) := by
        simp only [q, Request.work, Router.injectRoute, hparse]
      have hleaves : Leaves x.mode i pass.router (routesOf pass.backend) calls s'.router
          (routesOf s'.backend) := by
        simp only [s', calls, pass, Site.serve, Site.callsOf, hwork, Task.run_bind,
          Task.trace_bind, Task.run, Task.trace, List.append_nil] at h ⊢
        exact Site.inject_leaves hconforms s hi (Outcome.injected.inj h)
      have hdesired : pass.router.desired = s.router.desired := x.afterPass_desired s
      have hroutes : s'.router.desired.routes = s.router.desired.routes :=
        hleaves.routes_eq.trans (congrArg DesiredTable.routes hdesired)
      rw [← hdesired] at hroutes ⊢
      refine ⟨?_, ?_, Or.inr ⟨i, rfl, hleaves.clock_eq, ?_, hleaves.isWithdrawn_iff,
        hleaves.routes_cases⟩⟩
      · rw [DesiredTable.toList, hroutes]
        rfl
      · intro subnet
        rw [DesiredTable.get?, hroutes]
        rfl
      · intro subnet hne
        exact hleaves.isWithdrawn_of_ne hne

/-- A backend that adds routes and whose calls may fail. -/
private def forgetful : Site (List Bool × Recording) Empty :=
  .closed .vpp (Server.guarded (Server.scripted (.unreachable .vpp "call" "connection lost"))
    (Recording.server .vpp))

/-- The subnet that is asked for. -/
private def lost : Network :=
  .host (.ofOctets 10 1 0 7)

/-- The first next hop of the subnet is recorded and a pass is due; a path that nobody recorded
and a route of another subnet are there too. The coming delete works and the write after it does
not. -/
private def beforeLoss : Session (List Bool × Recording) :=
  forgetful.run [.request (.inject "10.1.0.7/32" "192.168.3.1"), .advance 60000]
    (.start 60000 0 ([false, false, true],
      { installed := [⟨some lost, some (.ofOctets 192 168 3 9), some 3⟩,
          ⟨some (.host (.ofOctets 10 2 0 7)), some (.ofOctets 192 168 3 1), some 3⟩] }))

/-- The route that was deleted is gone and the subnet is marked; the next hop stays recorded and
the two other routes stay where they are. -/
theorem failed_injection_leaves_rest_of_lost_write :
    let q := Request.inject "10.1.0.7/32" "192.168.3.5"
    let s' := (forgetful.serve q beforeLoss).2
    (forgetful.serve q beforeLoss).1 =
        .injected (.error (.unreachable .vpp "call" "connection lost")) ∧
      (beforeLoss.backend.2.livePaths lost).length = 2 ∧
      s'.router.desired.toList = beforeLoss.router.desired.toList ∧
      s'.router.desired.get? lost = some (.ofOctets 192 168 3 1) ∧
      s'.router.desired.isWithdrawn lost = true ∧
      s'.backend.2.installed =
        [⟨some lost, some (.ofOctets 192 168 3 9), some 3⟩,
          ⟨some (.host (.ofOctets 10 2 0 7)), some (.ofOctets 192 168 3 1), some 3⟩] := by
  intro q s'
  have hconforms : Conforms .vpp forgetful.server fun s => s.2.installed :=
    (recording_conforms .vpp).guarded _
  have hfails : (forgetful.serve q beforeLoss).1 =
      .injected (.error (.unreachable .vpp "call" "connection lost")) := rfl
  obtain ⟨hlisted, hget, -⟩ := failed_injection_leaves_rest hconforms beforeLoss "10.1.0.7/32"
    "192.168.3.5" hfails
  exact ⟨hfails, by decide +kernel, hlisted, (hget lost).trans rfl, by decide +kernel,
    by decide +kernel⟩

end RouteKeeper
