import RouteKeeper.Proofs.Reconciliation
import RouteKeeper.Proofs.Session.Trace

/-!
# Injections after a due pass

In kernel mode an injection that finds the clock due runs a pass before anything else, and the
pass writes every desired route that is out of place. What fails in the pass is left for the
next one. So an injection that succeeds after its pass has put its route in place, unless the
intent was current already and the pass did not get to write it.
-/

namespace RouteKeeper

open Recording Dataplane

/-- The route of an intent is in place when its next hop is live for its subnet. -/
def Intent.InPlace (i : Intent) (routes : List InstalledRoute) : Prop :=
  i.nextHop ∈ livePathsOf routes i.subnet

variable {σ : Type} {server : Server dataplane σ} {routesOf : σ → List InstalledRoute}

/-- Some call of a trace is the given one and fails. -/
def Fails (c : Call) (trace : List (Moment dataplane Router σ)) : Prop :=
  ∃ m ∈ trace, m.call = c ∧ m.ok = false

theorem Fails.mono {c : Call} {trace trace' : List (Moment dataplane Router σ)}
    (h : Fails c trace) (hsub : trace ⊆ trace') : Fails c trace' := by
  obtain ⟨m, hm, hfails⟩ := h
  exact ⟨m, hsub hm, hfails⟩

/-- What is in sync with a listing is in place in it. -/
theorem Reconciliation.inPlace_of_inSync {i : Intent} {routes : List InstalledRoute}
    (h : inSync routes i = true) : i.InPlace routes := by
  obtain ⟨route, hfind, hgateway⟩ :=
    Option.map_eq_some_iff.mp (beq_iff_eq.mp (h : (listedGateway routes i.subnet == _) = true))
  have hmem : route ∈ routes := List.mem_reverse.mp (List.mem_of_find?_eq_some hfind)
  have hdestination : route.destination = some i.subnet := by
    simpa using List.find?_some hfind
  exact (mem_livePathsOf ..).mpr ⟨route, hmem, hdestination, hgateway⟩

namespace Router

variable {mode : Mode} {now : Nat} {r : Router} (hdue : r.clock.isDue now = true) (s : σ)
include hdue

/-- A due pass leaves the backend as the pass does, and only the clock moves on. -/
theorem run_reconcileIfDue_of_due :
    (reconcileIfDue mode now r).run server now r s =
      ({ r with clock := r.clock.mark now }, { r with clock := r.clock.mark now },
        ((Task.ofProgram (Reconciliation.pass mode r.desired)).run server now r s).2.2) := by
  rw [reconcileIfDue, if_pos hdue]
  exact Task.run_bind ..

theorem trace_reconcileIfDue_of_due :
    (reconcileIfDue mode now r).trace server now r s =
      (Task.ofProgram (Reconciliation.pass mode r.desired)).trace server now r s := by
  rw [reconcileIfDue, if_pos hdue]
  exact (Task.trace_bind ..).trans (List.append_nil _)

end Router

namespace Reconciliation

variable (server : Server dataplane σ) (now : Nat) (r : Router) (s : σ)

/-- Once the routes are listed, a pass writes each intent that is out of sync, in order and
whatever the writes before it came to, and makes no other call. -/
theorem calls_repair (installed : List InstalledRoute) (intents : List Intent) (report : Report) :
    ((Task.ofProgram (repair installed intents report)).trace server now r s).map (·.call) =
      (drifted installed intents).map .upsert := by
  induction intents generalizing report s with
  | nil => rfl
  | cons i rest ih =>
      by_cases hsync : inSync installed i = true
      · rw [repair, if_pos hsync, ih, drifted_cons_of_inSync hsync]
      · rw [repair_cons_of_not_inSync hsync, drifted_cons_of_not_inSync hsync]
        exact congrArg (List.cons _) (ih ..)

end Reconciliation

/-- A backend that replaces needs nothing cleared. -/
theorem Router.clearTheWay_kernel (i : Intent) (r : Router) :
    clearTheWay .kernel i r = .done (.ok r) := by
  unfold clearTheWay
  split
  · rfl
  · rfl

section

variable (hconforms : Conforms .kernel server routesOf) {s : σ}
include hconforms

/-- A write touches the paths of its own subnet only. -/
theorem livePathsOf_upsert_of_ne {i : Intent} {subnet : Network} (h : i.subnet ≠ subnet) :
    livePathsOf (routesOf (server (.upsert i) s).2) subnet =
      livePathsOf (routesOf s) subnet := by
  rcases hconforms.upsert i s with ⟨failure, -, hroutes⟩ | ⟨-, hroutes⟩
  · rw [hroutes]
  · rw [hroutes, livePathsOf_write_kernel, if_neg h]

/-- A write that succeeds puts its intent in place. -/
theorem upsert_inPlace {i : Intent} (hok : (server (.upsert i) s).1.isOk = true) :
    i.InPlace (routesOf (server (.upsert i) s).2) := by
  obtain ⟨-, hroutes⟩ := (hconforms.upsert i s).of_ok hok
  rw [Intent.InPlace, hroutes, livePathsOf_write_kernel, if_pos rfl]
  exact List.mem_singleton_self _

namespace Router

open Reconciliation

variable {installed : List InstalledRoute} {intents : List Intent} (now : Nat) (r : Router)

/-- The paths of a subnet that is not desired are left alone by the writes of a pass. -/
theorem livePathsOf_repair_of_ne {subnet : Network} (h : ∀ i ∈ intents, i.subnet ≠ subnet)
    (report : Report) :
    livePathsOf (routesOf ((repair installed intents report).run server s).2) subnet =
      livePathsOf (routesOf s) subnet := by
  induction intents generalizing s report with
  | nil => rfl
  | cons j rest ih =>
      obtain ⟨hj, hrest⟩ := List.forall_mem_cons.mp h
      by_cases hsync : inSync installed j = true
      · rw [repair, if_pos hsync]
        exact ih hrest _
      · rw [repair_cons_of_not_inSync hsync, Program.run_call, ih hrest]
        exact livePathsOf_upsert_of_ne hconforms hj

/-- The writes of a pass put every intent in place, except where the write fails. Intents that
are not written have to be in place already. -/
theorem repair_inPlace (hdistinct : intents.Pairwise fun i j => i.subnet ≠ j.subnet)
    (hsync : ∀ i ∈ intents, inSync installed i = true → i.InPlace (routesOf s))
    (report : Report) (i : Intent) (hi : i ∈ intents) :
    i.InPlace (routesOf ((repair installed intents report).run server s).2) ∨
      Fails (.upsert i)
        ((Task.ofProgram (repair installed intents report)).trace server now r s) := by
  -- The listing is that of the start of the pass. It still tells the paths of the intents to
  -- come, because a write touches its own subnet only and subnets are distinct.
  induction intents generalizing s report with
  | nil => cases hi
  | cons j rest ih =>
      obtain ⟨hfirst, hrest⟩ := List.pairwise_cons.mp hdistinct
      obtain ⟨hsyncj, hsyncrest⟩ := List.forall_mem_cons.mp hsync
      have hframe (s : σ) (report : Report) :
          livePathsOf (routesOf ((repair installed rest report).run server s).2) j.subnet =
            livePathsOf (routesOf s) j.subnet :=
        livePathsOf_repair_of_ne hconforms (fun k hk => Ne.symm (hfirst k hk)) report
      by_cases hj : inSync installed j = true
      · rw [repair, if_pos hj]
        rcases List.mem_cons.mp hi with rfl | hi
        · refine Or.inl ?_
          rw [Intent.InPlace, hframe]
          exact hsyncj hj
        · exact ih hrest hsyncrest _ hi
      · rw [repair_cons_of_not_inSync hj, Program.run_call, Task.ofProgram, Task.trace]
        rcases List.mem_cons.mp hi with rfl | hi
        · cases hanswer : (server (.upsert i) s).1.isOk with
          | true =>
              refine Or.inl ?_
              rw [Intent.InPlace, hframe]
              exact upsert_inPlace hconforms hanswer
          | false => exact Or.inr ⟨_, List.mem_cons_self, rfl, rfl⟩
        · have hsyncnext : ∀ k ∈ rest, inSync installed k = true →
              k.InPlace (routesOf (server (.upsert j) s).2) := by
            intro k hk hin
            rw [Intent.InPlace, livePathsOf_upsert_of_ne hconforms (hfirst k hk)]
            exact hsyncrest k hk hin
          exact (ih hrest hsyncnext _ hi).imp_right fun h => h.mono (List.subset_cons_self _ _)

/-- A pass puts a desired route in place, unless the listing fails or the write of the route. -/
theorem pass_inPlace {t : DesiredTable} (ht : t.WellFormed) {i : Intent} (hi : i ∈ t.routes) :
    i.InPlace (routesOf ((Task.ofProgram (pass .kernel t)).run server now r s).2.2) ∨
      Fails .installed ((Task.ofProgram (pass .kernel t)).trace server now r s) ∨
      Fails (.upsert i) ((Task.ofProgram (pass .kernel t)).trace server now r s) := by
  have hlisted : i ∈ t.toList := by rwa [ht.canonical.toList_eq]
  have hdetects : Mode.kernel.detectsDrift = true := rfl
  rw [ofProgram_pass, if_pos hdetects, Task.run, Task.trace]
  rcases hconforms.installed s with ⟨failure, hanswer, -⟩ | ⟨hanswer, hroutes⟩
  · exact Or.inr (Or.inl ⟨_, List.mem_cons_self, rfl, by rw [hanswer]; rfl⟩)
  · simp only [hanswer, Task.run_bind, Task.trace_bind, Task.run_ofProgram, Task.run]
    have hsync (j : Intent) (_ : j ∈ t.toList) (hj : inSync (routesOf s) j = true) :
        j.InPlace (routesOf (server .installed s).2) := by
      rw [hroutes]
      exact inPlace_of_inSync hj
    rcases repair_inPlace hconforms now r ht.toList_pairwise hsync {} i hlisted with
      hplaced | hfails
    · exact Or.inl hplaced
    · refine Or.inr (Or.inr (hfails.mono ?_))
      exact List.subset_cons_of_subset _ (List.subset_append_left _ _)

variable {now r}

/-- A write that is recorded has put its intent in place. -/
theorem writeAndRecord_inPlace {i : Intent} {state : Router}
    (hok : ((writeAndRecord i r).run server now state s).1 = .ok ()) :
    i.InPlace (routesOf ((writeAndRecord i r).run server now state s).2.2) := by
  simp only [writeAndRecord, Task.run] at hok ⊢
  cases hanswer : (server (.upsert i) s).1 with
  | error failure =>
      rw [hanswer] at hok
      cases hok
  | ok _ =>
      have hsucceeds : (server (.upsert i) s).1.isOk = true := by
        rw [hanswer]
        rfl
      exact upsert_inPlace hconforms hsucceeds

/-- The success of an injection comes from its own write, or, for an intent that is current, from
what its pass found and wrote. -/
theorem inject_inPlace {i : Intent} (hr : r.desired.WellFormed) (hdue : r.clock.isDue now = true)
    (hok : ((inject .kernel i).run server now r s).1 = .ok ()) :
    i.InPlace (routesOf ((inject .kernel i).run server now r s).2.2) ∨
      r.desired.isCurrent i = true ∧
        (Fails .installed ((inject .kernel i).trace server now r s) ∨
          Fails (.upsert i) ((inject .kernel i).trace server now r s)) := by
  rw [inject_eq] at hok ⊢
  simp only [Task.run, Task.trace, Task.run_bind, Task.trace_bind,
    run_reconcileIfDue_of_due hdue] at hok ⊢
  rw [trace_reconcileIfDue_of_due hdue]
  by_cases hcurrent : r.desired.isCurrent i = true
  · rw [if_pos hcurrent] at hok ⊢
    have hmem : i ∈ r.desired.routes := by
      obtain ⟨hget, -⟩ := (DesiredTable.liveHop?_eq_some_iff ..).mp
        ((DesiredTable.isCurrent_iff ..).mp hcurrent)
      exact DesiredTable.mem_routes_of_get? hget
    simp only [Task.run, Task.trace, List.append_nil]
    exact (pass_inPlace hconforms now r hr hmem).imp_right fun hfails => ⟨hcurrent, hfails⟩
  · rw [if_neg hcurrent, clearTheWay_kernel] at hok ⊢
    exact Or.inl (writeAndRecord_inPlace hconforms hok)

end Router

end

/-- **A success after a due pass.** In kernel mode let any requests, any time and any outside
events have gone by. An injection that then finds the clock due and succeeds has put its route
in place, unless the intent was current before and in its pass the listing failed or the write
of the route. -/
theorem injected_inPlace_of_due {ε : Type} {x : Site σ ε} (hmode : x.mode = .kernel)
    (hconforms : Conforms .kernel x.server routesOf) (interval started : Nat) (backend : σ)
    (events : List (Event ε)) {subnetText nextHopText : String} {i : Intent}
    (hparse : Intent.parse subnetText nextHopText = .ok i) :
    let s := x.run events (.start interval started backend)
    let q := Request.inject subnetText nextHopText
    s.router.clock.isDue s.now = true → (x.serve q s).1 = .injected (.ok ()) →
      i.nextHop ∈ livePathsOf (routesOf (x.serve q s).2.backend) i.subnet ∨
      s.router.desired.isCurrent i = true ∧
        ∃ m ∈ x.callsOf s (.request q), (m.call = .installed ∨ m.call = .upsert i) ∧
          m.ok = false := by
  intro s q hdue hok
  have hr : s.router.desired.WellFormed := x.run_wellFormed interval started backend events
  have hwork : q.work .kernel =
      (Router.inject .kernel i).bind fun result => .done (.injected result) := by
    simp only [q, Request.work, Router.injectRoute, hparse]
  simp only [Site.serve, Site.callsOf, hmode, hwork, Task.run_bind, Task.trace_bind, Task.run,
    Task.trace, List.append_nil] at hok ⊢
  have hinjected : ((Router.inject .kernel i).run x.server s.now s.router s.backend).1 = .ok () :=
    Outcome.injected.inj hok
  refine (Router.inject_inPlace hconforms hr hdue hinjected).imp_right ?_
  rintro ⟨hcurrent, ⟨m, hm, hcall, hfails⟩ | ⟨m, hm, hcall, hfails⟩⟩
  · exact ⟨hcurrent, m, hm, Or.inl hcall, hfails⟩
  · exact ⟨hcurrent, m, hm, Or.inr hcall, hfails⟩

/-- A kernel whose routes anybody may exchange for others. -/
private def shared : Site Recording (List InstalledRoute) :=
  ⟨.kernel, Recording.server .kernel, fun routes r => { r with installed := routes }⟩

/-- The intent that is asked for. -/
private def wanted : Intent :=
  ⟨.host (.ofOctets 10 1 0 7), .ofOctets 192 168 3 1⟩

/-- Asks for the intent. -/
private def ask : Request :=
  .inject "10.1.0.7/32" "192.168.3.1"

/-- After a first request all routes vanish, and a pass becomes due. -/
private def vanishing (first : Request) : List (Event (List InstalledRoute)) :=
  [.request first, .outside [], .advance 60000]

/-- A route that was injected and has vanished is brought back by the same injection. -/
theorem injected_inPlace_of_vanished :
    let s := shared.run (vanishing ask) (.start 60000 0 {})
    s.backend.installed = [] ∧ (shared.serve ask s).1 = .injected (.ok ()) ∧
      wanted.nextHop ∈
        livePathsOf (shared.serve ask s).2.backend.installed wanted.subnet := by
  have hconforms : Conforms .kernel shared.server Recording.installed := recording_conforms .kernel
  have hparse : Intent.parse "10.1.0.7/32" "192.168.3.1" = .ok wanted := rfl
  have hsucceed : ∀ m ∈ shared.callsOf (shared.run (vanishing ask) (.start 60000 0 {}))
      (.request ask), m.ok = true := by decide +kernel
  have h := injected_inPlace_of_due rfl hconforms 60000 0 {} (vanishing ask) hparse
    (by decide +kernel) rfl
  refine ⟨rfl, rfl, h.resolve_right ?_⟩
  rintro ⟨-, m, hm, -, hfails⟩
  exact Bool.noConfusion (hfails.symm.trans (hsucceed m hm))

/-- An injection that finds the clock due succeeds without a route: what was recovered has
vanished, its write fails in the pass, and the intent is current all the same. -/
theorem not_inPlace_of_failed_repair :
    let s := shared.run (vanishing .recover)
      (.start 60000 0 { installed := [routeOf wanted], failing := [wanted.subnet] })
    s.router.clock.isDue s.now = true ∧ (shared.serve ask s).1 = .injected (.ok ()) ∧
      livePathsOf (shared.serve ask s).2.backend.installed wanted.subnet = [] :=
  ⟨by decide +kernel, rfl, by decide +kernel⟩

end RouteKeeper
