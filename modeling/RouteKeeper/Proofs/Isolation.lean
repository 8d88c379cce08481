import RouteKeeper.Proofs.Ownership
import RouteKeeper.Proofs.Turns

/-!
# Subnets do not interfere

The lane of a subnet is all that concerns it: what is recorded for it, the routes to it, whether
its writes are refused, and the writes and deletes about it so far. An injection for a subnet
goes by the lane of that subnet, and no other injection changes the lane. So the lane comes out
the same when the injections for all other subnets are left out.

## Implementation notes

The clock is in no lane. Injections for other subnets move it and make passes due, which go
through all recorded subnets. In kernel mode such a pass is not seen in a lane because the table
owns its routes, and in VPP mode because it does nothing.
-/

namespace RouteKeeper

open Recording Dataplane

/-- In kernel mode the table owns its routes, so that passes find nothing to write. -/
def Settled (mode : Mode) (initial : List InstalledRoute) (r : Router) (s : Recording) : Prop :=
  mode = .kernel → r.desired.Owns initial s.installed

/-- What concerns one subnet of a router over a recording dataplane. -/
@[ext]
structure Lane where
  /-- The recorded next hop. -/
  recorded : Option Address
  /-- Whether the recorded route is withdrawn. -/
  withdrawn : Bool
  /-- The installed routes to the subnet, in order. -/
  routes : List InstalledRoute
  /-- Whether writes are refused. -/
  refused : Bool
  /-- The writes and deletes so far, oldest first. -/
  calls : List Call

/-- The lane of a subnet. -/
def laneOf (subnet : Network) (r : Router) (s : Recording) : Lane where
  recorded := r.desired.get? subnet
  withdrawn := r.desired.isWithdrawn subnet
  routes := routesTo s.installed subnet
  refused := s.failing.contains subnet
  calls := s.calls.filter (·.isAbout subnet)

section

variable {mode : Mode} {subnet : Network} {r r' : Router} {s s' : Recording} {c : Call}
  {i : Intent}

/-- Only writes and deletes are about a subnet. -/
theorem Recording.filter_writes (s : Recording) (subnet : Network) :
    s.writes.filter (·.isAbout subnet) = s.calls.filter (·.isAbout subnet) := by
  rw [Recording.writes, List.filter_filter]
  refine List.filter_congr fun c _ => ?_
  cases c <;> simp [Call.isAbout, Call.isWrite]

section

variable (hlane : laneOf subnet r s = laneOf subnet r' s')
include hlane

theorem get?_congr_lane : r.desired.get? subnet = r'.desired.get? subnet :=
  congrArg Lane.recorded hlane

theorem isWithdrawn_congr_lane : r.desired.isWithdrawn subnet = r'.desired.isWithdrawn subnet :=
  congrArg Lane.withdrawn hlane

theorem routesTo_congr_lane : routesTo s.installed subnet = routesTo s'.installed subnet :=
  congrArg Lane.routes hlane

theorem failing_congr_lane : s.failing.contains subnet = s'.failing.contains subnet :=
  congrArg Lane.refused hlane

theorem calls_congr_lane :
    s.calls.filter (·.isAbout subnet) = s'.calls.filter (·.isAbout subnet) :=
  congrArg Lane.calls hlane

end

/-- Whether an intent is current is told by the lane of its subnet. -/
theorem isCurrent_congr_lane (hlane : laneOf i.subnet r s = laneOf i.subnet r' s') :
    r.desired.isCurrent i = r'.desired.isCurrent i := by
  rw [DesiredTable.isCurrent, DesiredTable.isCurrent, get?_congr_lane hlane,
    isWithdrawn_congr_lane hlane]

/-- A call about another subnet is not seen in the lane. -/
theorem laneOf_server (h : c.isAbout subnet = false) :
    laneOf subnet r (server mode c s).2 = laneOf subnet r s := by
  cases c with
  | installed => simp [laneOf, server, note, h]
  | connections => simp [laneOf, server, note, h]
  | delete i =>
      have hne : i.subnet ≠ subnet := by simpa [Call.isAbout] using h
      simp [laneOf, server, note, h, routesTo_erase_of_ne hne]
  | upsert i =>
      have hne : i.subnet ≠ subnet := by simpa [Call.isAbout] using h
      by_cases hfails : i.subnet ∈ s.failing
      · simp [laneOf, server_upsert_failing hfails, note, h]
      · simp [laneOf, server_upsert hfails, note, h, routesTo_write_of_ne hne]

/-- A call about the subnet is answered by the lane and goes on from it. -/
theorem server_lane_congr (mode : Mode) (hlane : laneOf subnet r s = laneOf subnet r' s')
    (h : c.isAbout subnet = true) :
    (server mode c s).1 = (server mode c s').1 ∧
      laneOf subnet r (server mode c s).2 = laneOf subnet r' (server mode c s').2 := by
  obtain ⟨hrecorded, hwithdrawn, hroutes, hrefused, -⟩ := Lane.ext_iff.mp hlane
  have hnoted : (s.calls ++ [c]).filter (·.isAbout subnet) =
      (s'.calls ++ [c]).filter (·.isAbout subnet) := by
    rw [List.filter_append, List.filter_append, calls_congr_lane hlane]
  cases c with
  | installed => cases h
  | connections => cases h
  | delete i =>
      obtain rfl : i.subnet = subnet := by simpa [Call.isAbout] using h
      refine ⟨rfl, Lane.ext hrecorded hwithdrawn ?_ hrefused hnoted⟩
      show routesTo (erase mode i s.installed) i.subnet = routesTo (erase mode i s'.installed) _
      rw [routesTo_erase, routesTo_erase, routesTo_congr_lane hlane]
  | upsert i =>
      obtain rfl : i.subnet = subnet := by simpa [Call.isAbout] using h
      have hsame : i.subnet ∈ s.failing ↔ i.subnet ∈ s'.failing := by
        simpa using failing_congr_lane hlane
      by_cases hfails : i.subnet ∈ s.failing
      · rw [server_upsert_failing hfails, server_upsert_failing (hsame.mp hfails)]
        exact ⟨rfl, Lane.ext hrecorded hwithdrawn hroutes hrefused hnoted⟩
      · rw [server_upsert hfails, server_upsert (mt hsame.mpr hfails)]
        refine ⟨rfl, Lane.ext hrecorded hwithdrawn ?_ hrefused hnoted⟩
        show routesTo (write mode i s.installed) i.subnet = routesTo (write mode i s'.installed) _
        rw [routesTo_write, routesTo_write, routesTo_congr_lane hlane]

theorem laneOf_record_of_ne (h : i.subnet ≠ subnet) :
    laneOf subnet { r with desired := r.desired.record i } s = laneOf subnet r s :=
  Lane.ext (DesiredTable.get?_record_of_ne _ _ _ h) (DesiredTable.isWithdrawn_record_of_ne _ _ _ h)
    rfl rfl rfl

theorem laneOf_record_congr (hlane : laneOf i.subnet r s = laneOf i.subnet r' s') :
    laneOf i.subnet { r with desired := r.desired.record i } s =
      laneOf i.subnet { r' with desired := r'.desired.record i } s' := by
  obtain ⟨-, -, hroutes, hrefused, hcalls⟩ := Lane.ext_iff.mp hlane
  refine Lane.ext ?_ ?_ hroutes hrefused hcalls
  · simp [laneOf]
  · simp [laneOf]

theorem laneOf_markWithdrawn_of_ne {marked : Network} (h : marked ≠ subnet) :
    laneOf subnet { r with desired := r.desired.markWithdrawn marked } s = laneOf subnet r s :=
  Lane.ext (DesiredTable.get?_markWithdrawn ..)
    (DesiredTable.isWithdrawn_markWithdrawn_of_ne _ _ h.symm) rfl rfl rfl

theorem laneOf_markWithdrawn_congr (hlane : laneOf subnet r s = laneOf subnet r' s') :
    laneOf subnet { r with desired := r.desired.markWithdrawn subnet } s =
      laneOf subnet { r' with desired := r'.desired.markWithdrawn subnet } s' := by
  obtain ⟨-, -, hroutes, hrefused, hcalls⟩ := Lane.ext_iff.mp hlane
  have hget := get?_congr_lane hlane
  refine Lane.ext ?_ ?_ hroutes hrefused hcalls
  · simp [laneOf, hget]
  · simp [laneOf, DesiredTable.isWithdrawn_markWithdrawn, hget, isWithdrawn_congr_lane hlane]

namespace Router

variable {now : Nat}

/-- Clearing the way for one subnet succeeds, and is not seen in the lane of another. -/
theorem clearTheWay_frame (mode : Mode) (now : Nat) (hi : i.Canonical) (h : i.subnet ≠ subnet) :
    ∃ cleared after, (clearTheWay mode i r).run (server mode) now r s =
        (.ok cleared, cleared, after) ∧
      laneOf subnet cleared after = laneOf subnet r s := by
  unfold clearTheWay
  cases r.desired.get? i.subnet with
  | none => exact ⟨r, s, rfl, rfl⟩
  | some old =>
      simp only
      split
      · exact ⟨r, s, rfl, rfl⟩
      · have hforeign : (Call.delete (.of i.subnet old)).isAbout subnet = false := by
          have hsubnet : (Intent.of i.subnet old).subnet = i.subnet := hi
          simpa [Call.isAbout, hsubnet] using h
        exact ⟨_, _, rfl, (laneOf_markWithdrawn_of_ne h).trans (laneOf_server hforeign)⟩

/-- What it does to its own subnet is told by the lane. -/
theorem clearTheWay_congr (mode : Mode) (now : Nat) (hi : i.Canonical)
    (hlane : laneOf i.subnet r s = laneOf i.subnet r' s') :
    ∃ cleared after cleared' after',
      (clearTheWay mode i r).run (server mode) now r s = (.ok cleared, cleared, after) ∧
      (clearTheWay mode i r').run (server mode) now r' s' = (.ok cleared', cleared', after') ∧
      laneOf i.subnet cleared after = laneOf i.subnet cleared' after' := by
  unfold clearTheWay
  rw [get?_congr_lane hlane, isWithdrawn_congr_lane hlane]
  cases r'.desired.get? i.subnet with
  | none => exact ⟨r, s, r', s', rfl, rfl, hlane⟩
  | some old =>
      simp only
      split
      · exact ⟨r, s, r', s', rfl, rfl, hlane⟩
      · have hown : (Call.delete (.of i.subnet old)).isAbout i.subnet = true := by
          have hsubnet : (Intent.of i.subnet old).subnet = i.subnet := hi
          simp [Call.isAbout, hsubnet]
        exact ⟨_, _, _, _, rfl, rfl,
          laneOf_markWithdrawn_congr (server_lane_congr mode hlane hown).2⟩

/-- A write for one subnet is not seen in the lane of another. -/
theorem writeAndRecord_frame (h : i.subnet ≠ subnet) :
    let result := (writeAndRecord i r).run (server mode) now r s
    laneOf subnet result.2.1 result.2.2 = laneOf subnet r s := by
  have hforeign : (Call.upsert i).isAbout subnet = false := by simpa [Call.isAbout] using h
  have hserver : laneOf subnet r (server mode (.upsert i) s).2 = laneOf subnet r s :=
    laneOf_server hforeign
  simp only [writeAndRecord, Task.run]
  cases (server mode (.upsert i) s).1 with
  | error failure => exact hserver
  | ok _ => exact (laneOf_record_of_ne h).trans hserver

/-- What it does to its own subnet, and how it ends, is told by the lane. -/
theorem writeAndRecord_congr (hlane : laneOf i.subnet r s = laneOf i.subnet r' s') :
    let result := (writeAndRecord i r).run (server mode) now r s
    let result' := (writeAndRecord i r').run (server mode) now r' s'
    result.1 = result'.1 ∧
      laneOf i.subnet result.2.1 result.2.2 = laneOf i.subnet result'.2.1 result'.2.2 := by
  have hown : (Call.upsert i).isAbout i.subnet = true := by simp [Call.isAbout]
  obtain ⟨hanswer, hafter⟩ := server_lane_congr mode hlane hown
  simp only [writeAndRecord, Task.run, hanswer]
  cases (server mode (.upsert i) s').1 with
  | error failure => exact ⟨rfl, hafter⟩
  | ok _ => exact ⟨rfl, laneOf_record_congr hafter⟩

variable {initial initial' : List InstalledRoute}

/-- Where passes find nothing to write, they are not seen in a lane. -/
theorem laneOf_pass (hsettled : Settled mode initial r s) :
    laneOf subnet r ((Task.ofProgram (Reconciliation.pass mode r.desired) : Work _).run
      (server mode) now r s).2.2 = laneOf subnet r s := by
  rw [Task.run_ofProgram]
  cases mode with
  | vpp => rfl
  | kernel =>
      have hnone : Reconciliation.drifted s.installed r.desired.toList = [] :=
        List.filter_eq_nil_iff.mpr fun i hi => by simp [(hsettled rfl).inSync i hi]
      rw [run_pass_of_refused (by simp [hnone]), hnone]
      simp [laneOf, Call.isAbout]

theorem reconcileIfDue_frame (now : Nat) (subnet : Network)
    (hsettled : Settled mode initial r s) :
    ∃ clock after, (reconcileIfDue mode now r).run (server mode) now r s =
        ({ r with clock }, { r with clock }, after) ∧
      laneOf subnet { r with clock } after = laneOf subnet r s := by
  by_cases hdue : r.clock.isDue now = true
  · exact ⟨_, _, run_reconcileIfDue_of_due hdue s, laneOf_pass hsettled⟩
  · rw [reconcileIfDue, if_neg hdue]
    exact ⟨r.clock, s, rfl, rfl⟩

/-- An injection for one subnet is not seen in the lane of another. -/
theorem inject_frame (hi : i.Canonical) (h : i.subnet ≠ subnet)
    (hsettled : Settled mode initial r s) :
    let result := (inject mode i).run (server mode) now r s
    laneOf subnet result.2.1 result.2.2 = laneOf subnet r s := by
  obtain ⟨clock, after, hpass, hlane⟩ := reconcileIfDue_frame now subnet hsettled
  simp only [inject_eq, Task.run, Task.run_bind, hpass]
  split
  · exact hlane
  · obtain ⟨cleared, after', hclear, hlane'⟩ :=
      clearTheWay_frame mode now (r := { r with clock }) (s := after) hi h
    simp only [Task.run_bind, hclear]
    exact (writeAndRecord_frame h).trans (hlane'.trans hlane)

/-- What it does to its own subnet, and how it ends, is told by the lane. -/
theorem inject_congr (now : Nat) (hi : i.Canonical) (hsettled : Settled mode initial r s)
    (hsettled' : Settled mode initial' r' s')
    (hlane : laneOf i.subnet r s = laneOf i.subnet r' s') :
    let result := (inject mode i).run (server mode) now r s
    let result' := (inject mode i).run (server mode) now r' s'
    result.1 = result'.1 ∧
      laneOf i.subnet result.2.1 result.2.2 = laneOf i.subnet result'.2.1 result'.2.2 := by
  obtain ⟨clock, after, hpass, hpassed⟩ := reconcileIfDue_frame now i.subnet hsettled
  obtain ⟨clock', after', hpass', hpassed'⟩ := reconcileIfDue_frame now i.subnet hsettled'
  have hlane : laneOf i.subnet { r with clock } after =
      laneOf i.subnet { r' with clock := clock' } after' :=
    hpassed.trans (hlane.trans hpassed'.symm)
  simp only [inject_eq, Task.run, Task.run_bind, hpass, hpass', isCurrent_congr_lane hlane]
  split
  · exact ⟨rfl, hlane⟩
  · obtain ⟨_, _, _, _, hclear, hclear', hlane'⟩ := clearTheWay_congr mode now hi hlane
    simp only [Task.run_bind, hclear, hclear']
    exact writeAndRecord_congr hlane'

end Router

namespace Request

variable {now : Nat} {initial initial' : List InstalledRoute} {q : Request}

/-- A request that is no recovery is not seen in the lane of a subnet that it is not for. -/
theorem work_frame (hq : q ≠ .recover) (h : q.subnet? ≠ some subnet)
    (hsettled : Settled mode initial r s) :
    let result := (q.work mode).run (server mode) now r s
    laneOf subnet result.2.1 result.2.2 = laneOf subnet r s := by
  cases q with
  | recover => exact absurd rfl hq
  | reconcile =>
      simp only [work, Router.reconcileNow_eq, Task.bind, Task.run, Task.run_bind]
      exact Router.laneOf_pass hsettled
  | inject subnetText nextHopText =>
      simp only [work, Router.injectRoute]
      cases hparse : Intent.parse subnetText nextHopText with
      | error failure => rfl
      | ok i =>
          have hne : i.subnet ≠ subnet := by simpa [subnet?_inject hparse] using h
          simp only [Task.run_bind, Task.run]
          exact Router.inject_frame (Intent.parse_canonical hparse) hne hsettled

/-- The answer to a request, and what it does to its own subnet, is told by the lane. -/
theorem work_congr (now : Nat) (h : q.subnet? = some subnet)
    (hsettled : Settled mode initial r s) (hsettled' : Settled mode initial' r' s')
    (hlane : laneOf subnet r s = laneOf subnet r' s') :
    let result := (q.work mode).run (server mode) now r s
    let result' := (q.work mode).run (server mode) now r' s'
    result.1 = result'.1 ∧
      laneOf subnet result.2.1 result.2.2 = laneOf subnet result'.2.1 result'.2.2 := by
  cases q with
  | recover => cases h
  | reconcile => cases h
  | inject subnetText nextHopText =>
      simp only [work, Router.injectRoute]
      cases hparse : Intent.parse subnetText nextHopText with
      | error failure => exact ⟨rfl, hlane⟩
      | ok i =>
          obtain rfl : i.subnet = subnet := by simpa [subnet?_inject hparse] using h
          simp only [Task.run_bind, Task.run]
          obtain ⟨hresult, hlane⟩ :=
            Router.inject_congr now (Intent.parse_canonical hparse) hsettled hsettled' hlane
          exact ⟨congrArg Outcome.injected hresult, hlane⟩

end Request

end

/-- Whether an event has a part in what happens to a subnet. Of the requests only the injections
for the subnet have. -/
def Event.concerns {ε : Type} (subnet : Network) : Event ε → Bool
  | .request q => q.subnet? == some subnet
  | .advance _ | .outside _ => true

/-- A router over a recording dataplane whose writes can be made to fail subnet by subnet. -/
def Recording.refusing (mode : Mode) : Site Recording Network :=
  ⟨mode, server mode, fun subnet r => r.failFor subnet⟩

/-- Two sessions of one moment with the same lane. -/
structure Session.Alike (subnet : Network) (s s' : Session Recording) : Prop where
  now : s.now = s'.now
  lane : laneOf subnet s.router s.backend = laneOf subnet s'.router s'.backend

namespace Recording

variable {mode : Mode} {subnet : Network} {initial initial' : List InstalledRoute}
  {s s' : Session Recording} {e : Event Network}

/-- An event that is no recovery keeps passes from finding anything. -/
theorem settled_step (he : e ≠ .request .recover)
    (hsettled : Settled mode initial s.router s.backend) :
    let next := (refusing mode).step s e
    Settled mode initial next.router next.backend := by
  rintro next rfl
  have hchange : ∀ marked (r : Recording), (r.failFor marked).installed = r.installed :=
    fun _ _ => rfl
  exact (Site.step_owns (x := refusing .kernel) rfl (recording_conforms .kernel) hchange
    (hsettled rfl) he).1

/-- An event that does not concern a subnet has no answer for it and is not seen in its lane. -/
theorem step_frame (he : e ≠ .request .recover) (h : e.concerns subnet = false)
    (hsettled : Settled mode initial s.router s.backend) :
    ((refusing mode).answersOf s e).filter (·.1.subnet? == some subnet) = [] ∧
      Session.Alike subnet ((refusing mode).step s e) s := by
  cases e with
  | advance duration => cases h
  | outside marked => cases h
  | request q =>
      have hq : q ≠ .recover := fun hq => he (hq ▸ rfl)
      have hsubnet : q.subnet? ≠ some subnet := by simpa [Event.concerns] using h
      exact ⟨by simp [Site.answersOf, hsubnet], rfl, Request.work_frame hq hsubnet hsettled⟩

/-- An event that concerns a subnet has the same answer over the same lane, and does the same
to it. -/
theorem step_congr (h : e.concerns subnet = true)
    (hsettled : Settled mode initial s.router s.backend)
    (hsettled' : Settled mode initial' s'.router s'.backend) (halike : s.Alike subnet s') :
    ((refusing mode).answersOf s e).filter (·.1.subnet? == some subnet) =
        (refusing mode).answersOf s' e ∧
      Session.Alike subnet ((refusing mode).step s e) ((refusing mode).step s' e) := by
  obtain ⟨hnow, hlane⟩ := halike
  cases e with
  | advance duration => exact ⟨rfl, congrArg (· + duration) hnow, hlane⟩
  | outside marked =>
      obtain ⟨hrecorded, hwithdrawn, hroutes, -, hcalls⟩ := Lane.ext_iff.mp hlane
      refine ⟨rfl, hnow, Lane.ext hrecorded hwithdrawn hroutes ?_ hcalls⟩
      simp only [laneOf, Site.step, refusing, failFor, List.contains_cons,
        failing_congr_lane hlane]
  | request q =>
      have hsubnet : q.subnet? = some subnet := by simpa [Event.concerns] using h
      obtain ⟨hanswer, hlane⟩ := Request.work_congr s.now hsubnet hsettled hsettled' hlane
      simp only [Site.answersOf, Site.step, Site.serve, refusing, ← hnow]
      exact ⟨by simp [hsubnet, hanswer], rfl, hlane⟩

/-- So a run and its part that concerns a subnet stay alike. -/
theorem run_alike (subnet : Network) {events : List (Event Network)}
    (hrecover : .request .recover ∉ events)
    (hsettled : Settled mode initial s.router s.backend)
    (hsettled' : Settled mode initial' s'.router s'.backend) (halike : s.Alike subnet s') :
    let kept := events.filter (·.concerns subnet)
    ((refusing mode).answers events s).filter (·.1.subnet? == some subnet) =
        (refusing mode).answers kept s' ∧
      Session.Alike subnet ((refusing mode).run events s) ((refusing mode).run kept s') := by
  -- The part falls behind at each event that it leaves out, so the two sessions are related at
  -- the same time and lane only. That passes find nothing has to be kept on both sides.
  induction events generalizing s s' with
  | nil => exact ⟨rfl, halike⟩
  | cons e rest ih =>
      have he : e ≠ .request .recover := Ne.symm (List.ne_of_not_mem_cons hrecover)
      have hrest := List.not_mem_of_not_mem_cons hrecover
      have hnext := settled_step he hsettled
      simp only [Site.answers, List.filter_append]
      cases h : e.concerns subnet with
      | false =>
          obtain ⟨hanswers, hnow, hlane⟩ := step_frame he h hsettled
          rw [List.filter_cons_of_neg (by simp [h]), hanswers]
          exact ih hrest hnext hsettled' ⟨hnow.trans halike.now, hlane.trans halike.lane⟩
      | true =>
          obtain ⟨hanswers, hstep⟩ := step_congr h hsettled hsettled' halike
          obtain ⟨hrun, hend⟩ := ih hrest hnext (settled_step he hsettled') hstep
          rw [List.filter_cons_of_pos h, hanswers, hrun]
          exact ⟨rfl, hend⟩

end Recording

/-- **Subnets do not interfere.** Let a router of either mode serve injections and passes over any
routes, while time passes and writes of subnets are made to fail. For each subnet leave out
the passes that are asked for and all injections that are not for it. The injections for the
subnet end as before, the writes and deletes that name it are the same, and so are at the end its
record, its withdrawn mark, and its live paths. -/
theorem subnets_do_not_interfere (mode : Mode) (r : Recording) (interval started : Nat)
    {events : List (Event Network)} (hrecover : .request .recover ∉ events) (subnet : Network) :
    let x := Recording.refusing mode
    let first := Session.start interval started r
    let kept := events.filter (·.concerns subnet)
    let s := x.run events first
    let s' := x.run kept first
    (x.answers events first).filter (·.1.subnet? == some subnet) = x.answers kept first ∧
    s.backend.writes.filter (·.isAbout subnet) = s'.backend.writes.filter (·.isAbout subnet) ∧
    s.router.desired.get? subnet = s'.router.desired.get? subnet ∧
    s.router.desired.isWithdrawn subnet = s'.router.desired.isWithdrawn subnet ∧
    s.backend.livePaths subnet = s'.backend.livePaths subnet := by
  intro x first kept s s'
  have hsettled : Settled mode r.installed first.router first.backend :=
    fun _ => DesiredTable.empty_owns r.installed
  obtain ⟨hanswers, -, hlane⟩ :=
    Recording.run_alike subnet hrecover hsettled hsettled ⟨rfl, rfl⟩
  refine ⟨hanswers, ?_, get?_congr_lane hlane, isWithdrawn_congr_lane hlane, ?_⟩
  · rw [Recording.filter_writes, Recording.filter_writes]
    exact calls_congr_lane hlane
  · rw [Recording.livePaths, Recording.livePaths, livePathsOf_eq, livePathsOf_eq,
      routesTo_congr_lane hlane]

/-- Two subnets change their next hops after a while, and the second one is refused. -/
private def interleaved : List (Event Network) :=
  [.request (.inject "10.1.0.7/32" "192.168.3.1"), .request (.inject "10.2.0.7/32" "192.168.3.1"),
    .outside (.host (.ofOctets 10 2 0 7)), .advance 60000,
    .request (.inject "10.2.0.7/32" "192.168.3.5"), .request (.inject "010.1.0.7/32" "192.168.3.5")]

/-- The injection for the second subnet runs the pass that is due. Without it the first subnet is
written all the same. -/
theorem subnets_do_not_interfere_of_interleaved :
    let x := Recording.refusing .kernel
    let first := Session.start 60000 0 ({} : Recording)
    let subnet : Network := .host (.ofOctets 10 1 0 7)
    let s := x.run interleaved first
    let s' := x.run (interleaved.filter (·.concerns subnet)) first
    .request .recover ∉ interleaved ∧
      s.backend.calls ≠ s'.backend.calls ∧
      s.backend.writes.filter (·.isAbout subnet) = s'.backend.writes ∧
      s'.backend.writes =
        [.upsert ⟨subnet, .ofOctets 192 168 3 1⟩, .upsert ⟨subnet, .ofOctets 192 168 3 5⟩] ∧
      s.backend.livePaths subnet = s'.backend.livePaths subnet := by
  have hrecover : .request .recover ∉ interleaved := by simp [interleaved]
  obtain ⟨-, hwrites, -, -, hpaths⟩ := subnets_do_not_interfere .kernel {} 60000 0 hrecover
    (.host (.ofOctets 10 1 0 7))
  refine ⟨hrecover, by decide +kernel, ?_, by decide +kernel, hpaths⟩
  exact hwrites.trans (by decide +kernel)

end RouteKeeper
