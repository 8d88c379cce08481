import RouteKeeper.Proofs.Fulfilment
import RouteKeeper.Proofs.Kernel.Refinement
import RouteKeeper.Proofs.Vpp.Refinement

/-!
# What a failed injection tells

An injection fails in two ways. Its texts are not read, and then nothing is called. Or one of its
own writes fails, the delete of the recorded route or the write of the intent, and then the
failure names the backend, the operation and the route of that write and keeps what the agent or
the tables answered as its cause. What fails in a pass is never what an injection fails with.
-/

namespace RouteKeeper

open Dataplane

variable {σ : Type} {i : Intent} {s : σ} {failure : Failure}

/-- A wrapped failure comes from a failure to wrap. -/
theorem mapError_eq_error_iff {ε ε' α : Type} {wrap : ε → ε'} {x : Except ε α} {e : ε'} :
    x.mapError wrap = .error e ↔ ∃ cause, x = .error cause ∧ e = wrap cause := by
  cases x with
  | ok a =>
      constructor
      · intro h
        cases h
      · rintro ⟨cause, h, -⟩
        cases h
  | error cause =>
      constructor
      · intro h
        exact ⟨cause, rfl, (Except.error.inj h).symm⟩
      · rintro ⟨cause', h, rfl⟩
        obtain rfl := Except.error.inj h
        rfl

namespace Vpp

variable {interfaceName : String} {server : Server agent σ}

/-- A write fails when the agent's update does. -/
theorem upsert_failed_iff :
    ((backend interfaceName).serve server (.upsert i) s).1 = .error failure ↔
      ∃ cause, (server (.update (configFor i)) s).1 = .error cause ∧
        failure = .inWrite .vpp "add" i cause := by
  rw [serve_upsert]
  exact mapError_eq_error_iff

/-- A delete fails when the agent's delete does. -/
theorem delete_failed_iff :
    ((backend interfaceName).serve server (.delete i) s).1 = .error failure ↔
      ∃ cause, (server (.delete (configFor i)) s).1 = .error cause ∧
        failure = .inWrite .vpp "delete" i cause := by
  rw [serve_delete]
  exact mapError_eq_error_iff

end Vpp

namespace Kernel

/-- What keeps the tables from a write of an intent: the failure of the listing or of the
replacement, or that no link leads to the next hop. -/
inductive Refuses (server : Server tables σ) (i : Intent) (s : σ) : Failure → Prop where
  | listing {cause : Failure} (h : (server .routes s).1 = .error cause) : Refuses server i s cause
  | link {routes : List InstalledRoute} (hroutes : (server .routes s).1 = .ok routes)
      (hlink : linkTo? routes i.nextHop = none) :
      Refuses server i s (.linkNotFound i.subnet.text i.nextHop.text)
  | replacement {routes : List InstalledRoute} {link : Nat} {cause : Failure}
      (hroutes : (server .routes s).1 = .ok routes)
      (hlink : linkTo? routes i.nextHop = some link)
      (h : (server (.replace (specFor i link)) (server .routes s).2).1 = .error cause) :
      Refuses server i s cause

/-- A write fails when the tables are kept from it. -/
theorem upsert_failed_iff {naming : Naming} {server : Server tables σ} :
    ((backend naming).serve server (.upsert i) s).1 = .error failure ↔
      ∃ cause, Refuses server i s cause ∧ failure = inReplace i cause := by
  simp only [Adapter.serve, backend, upsert, Program.run]
  constructor
  · intro h
    cases hroutes : (server .routes s).1 with
    | error cause =>
        rw [hroutes] at h
        exact ⟨cause, .listing hroutes, (Except.error.inj h).symm⟩
    | ok routes =>
        simp only [hroutes] at h
        cases hlink : linkTo? routes i.nextHop with
        | none =>
            rw [hlink] at h
            exact ⟨_, .link hroutes hlink, (Except.error.inj h).symm⟩
        | some link =>
            simp only [hlink, Program.run] at h
            cases hanswer : (server (.replace (specFor i link)) (server .routes s).2).1 with
            | ok _ =>
                rw [hanswer] at h
                cases h
            | error cause =>
                rw [hanswer] at h
                exact ⟨cause, .replacement hroutes hlink hanswer, (Except.error.inj h).symm⟩
  · rintro ⟨cause, hrefuses, rfl⟩
    cases hrefuses with
    | listing h =>
        simp only [h]
        rfl
    | link hroutes hlink =>
        simp only [hroutes, hlink]
        rfl
    | replacement hroutes hlink h => simp only [hroutes, hlink, Program.run, h]

/-- Nothing keeps the kernel backend from a delete. -/
theorem delete_not_failed {naming : Naming} {server : Server tables σ} :
    ((backend naming).serve server (.delete i) s).1 ≠ .error failure :=
  nofun

end Kernel

/-- A backend over what it works on. -/
inductive Deployment (σ : Type) where
  /-- The VPP backend over a configuration agent. -/
  | vpp (interfaceName : String) (agent : Server Vpp.agent σ)
  /-- The kernel backend over the kernel's tables. -/
  | kernel (naming : Kernel.Naming) (tables : Server Kernel.tables σ)

namespace Deployment

/-- The mode of the backend. -/
def mode : Deployment σ → Mode
  | vpp _ _ => .vpp
  | kernel _ _ => .kernel

/-- The dataplane that the backend offers. -/
def server : Deployment σ → Server dataplane σ
  | vpp interfaceName agent => (Vpp.backend interfaceName).serve agent
  | kernel naming tables => (Kernel.backend naming).serve tables

/-- The site of a router over the backend. -/
def site {ε : Type} (d : Deployment σ) (change : ε → σ → σ) : Site σ ε :=
  ⟨d.mode, d.server, change⟩

/-- A write that the agent or the tables refuse: the operation that the write is, and the failure
that they answer with. -/
def Refuses : Deployment σ → Call → σ → String → Failure → Prop
  | vpp _ agent, .upsert i, s, operation, cause =>
    operation = "add" ∧ (agent (.update (Vpp.configFor i)) s).1 = .error cause
  | vpp _ agent, .delete i, s, operation, cause =>
    operation = "delete" ∧ (agent (.delete (Vpp.configFor i)) s).1 = .error cause
  | kernel _ tables, .upsert i, s, operation, cause =>
    operation = "replace" ∧ Kernel.Refuses tables i s cause
  | _, _, _, _, _ => False

variable {d : Deployment σ} {c : Call}

/-- A write fails when it is refused, and its failure wraps what it is refused with. -/
theorem failed_iff (hc : c = .upsert i ∨ c = .delete i) :
    (d.server c s).1 = .error failure ↔
      ∃ operation cause, d.Refuses c s operation cause ∧
        failure = .inWrite d.mode operation i cause := by
  cases d with
  | vpp interfaceName agent =>
      rcases hc with rfl | rfl
      · refine Vpp.upsert_failed_iff.trans ?_
        simp [Refuses, mode, and_assoc]
      · refine Vpp.delete_failed_iff.trans ?_
        simp [Refuses, mode, and_assoc]
  | kernel naming tables =>
      rcases hc with rfl | rfl
      · refine Kernel.upsert_failed_iff.trans ?_
        simp [Refuses, mode, Kernel.inReplace, and_assoc]
      · refine (iff_of_false Kernel.delete_not_failed ?_)
        rintro ⟨operation, cause, hrefuses, -⟩
        exact hrefuses

end Deployment

/-- The calls of the pass that an injection begins with, none if no pass is due. -/
def Site.dueCalls {ε : Type} (x : Site σ ε) (s : Session σ) : List (Moment dataplane Router σ) :=
  if s.router.clock.isDue s.now then
    (Task.ofProgram (Reconciliation.pass x.mode s.router.desired)).trace x.server s.now s.router
      s.backend
  else []

/-- In VPP mode a pass makes no calls. -/
theorem Site.dueCalls_vpp {ε : Type} {x : Site σ ε} (hmode : x.mode = .vpp) (s : Session σ) :
    x.dueCalls s = [] := by
  unfold dueCalls
  rw [hmode]
  split
  · rfl
  · rfl

theorem Site.trace_reconcileIfDue {ε : Type} (x : Site σ ε) (s : Session σ) :
    (Router.reconcileIfDue x.mode s.now s.router).trace x.server s.now s.router s.backend =
      x.dueCalls s := by
  unfold dueCalls
  split
  case isTrue hdue => exact Router.trace_reconcileIfDue_of_due hdue _
  case isFalse hdue =>
    rw [Router.reconcileIfDue, if_neg hdue]
    rfl

namespace Router

variable {server : Server dataplane σ} {mode : Mode} {now : Nat} {r : Router}

/-- An injection that fails does so with the failure of its last call, which is a write of its own
after the calls of its pass. -/
theorem inject_failed (hi : i.Canonical)
    (h : ((inject mode i).run server now r s).1 = .error failure) :
    ∃ own m, (inject mode i).trace server now r s =
        (reconcileIfDue mode now r).trace server now r s ++ own ++ [m] ∧
      (∀ m' ∈ own, m'.ok = true) ∧ (server m.call m.before).1 = .error failure ∧
      (m.call = .upsert i ∨
        ∃ old, mode = .vpp ∧ r.desired.get? i.subnet = some old ∧
          m.call = .delete ⟨i.subnet, old⟩) := by
  have hdesired : ((reconcileIfDue mode now r).run server now r s).1.desired = r.desired := by
    by_cases hdue : r.clock.isDue now = true
    · rw [run_reconcileIfDue_of_due hdue]
    · rw [reconcileIfDue, if_neg hdue]
      rfl
  rw [inject_eq_fulfil] at h ⊢
  simp only [Task.run, Task.run_bind, Task.trace, Task.trace_bind] at h ⊢
  obtain ⟨own, m, htrace, hown, hanswer, hcall⟩ := fulfil_failed hi h
  rw [hdesired] at hcall
  refine ⟨own, m, ?_, hown, hanswer, hcall⟩
  rw [htrace, List.append_assoc]

end Router

/-- Texts that are not read are an invalid address. -/
theorem Intent.parse_failed {subnetText nextHopText : String}
    (h : parse subnetText nextHopText = .error failure) :
    ∃ field value message, failure = .invalidAddress field value message := by
  simp only [parse] at h
  split at h
  · exact ⟨_, _, _, (Except.error.inj h).symm⟩
  · split at h
    · exact ⟨_, _, _, (Except.error.inj h).symm⟩
    · cases h

/-- **Failures name the write.** Over either backend, whatever the agent or the tables answer, an
injection that fails has not been read and has called nothing, or a write of its own after its
pass has been refused. Then the failure has the mode of the router, the operation, the subnet of
the intent and the next hop of that write, which is the one asked for or, where the recorded route
was to be deleted, the recorded one. Its cause is what the write was refused with, and both have
one root cause and are both worth a later attempt or both not. -/
theorem injection_failure_names_write {ε : Type} (d : Deployment σ) (change : ε → σ → σ)
    (s : Session σ) (subnetText nextHopText : String) :
    let x := d.site change
    let q := Request.inject subnetText nextHopText
    (x.serve q s).1 = .injected (.error failure) →
      (Intent.parse subnetText nextHopText = .error failure ∧
        (∃ field value message, failure = .invalidAddress field value message) ∧
        x.callsOf s (.request q) = []) ∨
      ∃ i own m operation hop cause,
        Intent.parse subnetText nextHopText = .ok i ∧ i.Canonical ∧
        x.callsOf s (.request q) = x.dueCalls s ++ own ++ [m] ∧ (∀ m' ∈ own, m'.ok = true) ∧
        (m.call = .upsert i ∧ hop = i.nextHop ∨
          d.mode = .vpp ∧ m.call = .delete ⟨i.subnet, hop⟩ ∧
            s.router.desired.get? i.subnet = some hop) ∧
        d.Refuses m.call m.before operation cause ∧
        failure = .routeWrite d.mode operation i.subnet.text hop.text cause ∧
        failure.rootCause = cause.rootCause ∧ failure.retryable = cause.retryable := by
  intro x q h
  cases hparse : Intent.parse subnetText nextHopText with
  | error cause =>
      refine Or.inl ?_
      have hwork : q.work x.mode = .done (.injected (.error cause)) := by
        simp only [q, Request.work, Router.injectRoute, hparse]
        rfl
      simp only [Site.serve, Site.callsOf, hwork] at h ⊢
      obtain rfl : cause = failure := Except.error.inj (Outcome.injected.inj h)
      exact ⟨rfl, Intent.parse_failed hparse, rfl⟩
  | ok i =>
      refine Or.inr ?_
      have hi : i.Canonical := Intent.parse_canonical hparse
      have hwork : q.work x.mode =
          (Router.inject x.mode i).bind fun result => .done (.injected result) := by
        simp only [q, Request.work, Router.injectRoute, hparse]
      simp only [Site.serve, Site.callsOf, hwork, Task.run_bind, Task.trace_bind, Task.run,
        Task.trace, List.append_nil] at h ⊢
      obtain ⟨own, m, htrace, hown, hanswer, hcall⟩ :=
        Router.inject_failed hi (Outcome.injected.inj h)
      rw [htrace, x.trace_reconcileIfDue]
      rcases hcall with hcall | ⟨old, hmode, hget, hcall⟩
      · obtain ⟨operation, cause, hrefuses, rfl⟩ :=
          (Deployment.failed_iff (Or.inl hcall)).mp hanswer
        exact ⟨i, own, m, operation, i.nextHop, cause, rfl, hi, rfl, hown, Or.inl ⟨hcall, rfl⟩,
          hrefuses, rfl, rfl, rfl⟩
      · obtain ⟨operation, cause, hrefuses, rfl⟩ :=
          (Deployment.failed_iff (Or.inr hcall)).mp hanswer
        exact ⟨i, own, m, operation, old, cause, rfl, hi, rfl, hown, Or.inr ⟨hmode, hcall, hget⟩,
          hrefuses, rfl, rfl, rfl⟩

/-- Calls of the tables fail as a script has it, with an entry for each call. -/
private def troubles (_ : Kernel.Table.Call) :
    List (Option Failure) → Option Failure × List (Option Failure)
  | [] => (none, [])
  | trouble :: rest => (trouble, rest)

/-- The kernel backend over tables in memory whose calls may fail. -/
private def troubled : Deployment (List (Option Failure) × StaticTable) :=
  .kernel ⟨"vl3-", "nsm0"⟩ (Server.guarded troubles StaticTable.server)

/-- The intent that is asked for. -/
private def asked : Intent :=
  ⟨.host (.ofOctets 10 1 0 7), .ofOctets 192 168 3 1⟩

/-- What the tables refuse the write with: a failure that names a write itself. -/
private def refusal : Failure :=
  .inWrite .kernel "replace" asked (.netlink "route replace" "EPERM")

/-- A pass is due whose listing will fail; then the host route of the gateway is found and the
write is refused. -/
private def beforeRefusal : Session (List (Option Failure) × StaticTable) where
  now := 60000
  router := .start 60000 0
  backend := ([some (.netlink "route dump" "timed out"), none, some refusal],
    { routes := [⟨some (.host (.ofOctets 192 168 3 1)), none, some 10⟩] })

/-- The failed listing of the pass does not show, and what the write was refused with is kept. -/
theorem injection_failure_names_write_of_nested :
    let x := troubled.site Empty.elim
    let q := Request.inject "10.1.0.7/32" "192.168.3.1"
    (x.serve q beforeRefusal).1 = .injected (.error (.inWrite .kernel "replace" asked refusal)) ∧
      (x.dueCalls beforeRefusal).map (·.ok) = [false] ∧
      ∃ m ∈ x.callsOf beforeRefusal (.request q),
        troubled.Refuses m.call m.before "replace" refusal := by
  intro x q
  have hfails : (x.serve q beforeRefusal).1 =
      .injected (.error (.inWrite .kernel "replace" asked refusal)) := rfl
  refine ⟨hfails, rfl, ?_⟩
  rcases injection_failure_names_write troubled Empty.elim beforeRefusal "10.1.0.7/32" "192.168.3.1"
    hfails with ⟨-, ⟨_, _, _, hinvalid⟩, -⟩ |
      ⟨i, own, m, operation, hop, cause, -, -, htrace, -, -, hrefuses, hfailure, -⟩
  · cases hinvalid
  · obtain ⟨-, rfl, -, -, rfl⟩ := Failure.routeWrite.inj hfailure
    refine ⟨m, ?_, hrefuses⟩
    rw [htrace]
    exact List.mem_append_right _ (List.mem_singleton_self m)

end RouteKeeper
