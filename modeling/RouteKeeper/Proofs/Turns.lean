import RouteKeeper.Proofs.Session.Trace
import RouteKeeper.Proofs.SinglePath

/-!
# Deletes before adds

In VPP mode the writes of a subnet take turns with its deletes. A route is added only where no
path is live, and a path is deleted only while it is live, so between two writes that succeed
stands exactly one delete that succeeds, and it names the next hop of the first.

## Implementation notes

That a call comes in its turn is a statement about the moment of the call, the failing calls
included. From the moments of a trace follows the order of what succeeded.
-/

namespace RouteKeeper

open Recording Dataplane

/-- Whether a request writes or deletes a route of the subnet. -/
def Dataplane.Call.isAbout (subnet : Network) : Call → Bool
  | .upsert i | .delete i => i.subnet == subnet
  | .installed | .connections => false

/-- Writes and deletes that take turns, from the next hop that is live before them to the one
that is live after them. -/
inductive Turns : Option Address → List Call → Option Address → Prop
  /-- Nothing is done. -/
  | nil {live : Option Address} : Turns live [] live
  /-- Where nothing is live, the next hop of a write is live then. -/
  | upsert {i : Intent} {calls : List Call} {last : Option Address}
      (h : Turns (some i.nextHop) calls last) : Turns none (.upsert i :: calls) last
  /-- Where a next hop is live, only that one is deleted, and nothing is live then. -/
  | delete {i : Intent} {calls : List Call} {last : Option Address}
      (h : Turns none calls last) : Turns (some i.nextHop) (.delete i :: calls) last

theorem Turns.append {first middle last : Option Address} {calls calls' : List Call}
    (h : Turns first calls middle) (h' : Turns middle calls' last) :
    Turns first (calls ++ calls') last := by
  induction h with
  | nil => exact h'
  | upsert _ ih => exact .upsert (ih h')
  | delete _ ih => exact .delete (ih h')

variable {σ : Type} {server : Server dataplane σ} {routesOf : σ → List InstalledRoute}

/-- The writes and deletes of a subnet that succeed, in order. -/
def writesTo (subnet : Network) (trace : List (Moment dataplane Router σ)) : List Call :=
  (trace.filter fun m => m.ok && m.call.isAbout subnet).map (·.call)

theorem writesTo_append (subnet : Network) (trace trace' : List (Moment dataplane Router σ)) :
    writesTo subnet (trace ++ trace') = writesTo subnet trace ++ writesTo subnet trace' := by
  simp [writesTo]

/-- A call comes in its turn: an add where no path is live, a delete of the only live path while
the table takes it to be live. -/
def Moment.InTurn (routesOf : σ → List InstalledRoute) (m : Moment dataplane Router σ) : Prop :=
  match m.call with
  | .upsert i => livePathsOf (routesOf m.before) i.subnet = []
  | .delete i => livePathsOf (routesOf m.before) i.subnet = [i.nextHop] ∧
      m.state.desired.liveHop? i.subnet = some i.nextHop
  | .installed => True
  | .connections => False

/-- Under a cover by one path, the live path is the one that the table takes to be live. -/
theorem DesiredTable.Covers.head?_livePathsOf {t : DesiredTable} {routes : List InstalledRoute}
    (h : t.Covers (fun _ => 1) routes) (subnet : Network) :
    (livePathsOf routes subnet).head? = t.liveHop? subnet := by
  rw [h.livePathsOf_eq, Option.head?_toList]

section

variable (hconforms : Conforms .vpp server routesOf)
include hconforms

/-- One call that comes in its turn takes a turn if it succeeds and is about the subnet. -/
theorem Moment.InTurn.turn {r : Router} {s : σ} {c : Call}
    (h : Moment.InTurn routesOf ⟨r, s, c, (server c s).1.isOk⟩) (subnet : Network) :
    Turns (livePathsOf (routesOf s) subnet).head?
      (writesTo subnet [⟨r, s, c, (server c s).1.isOk⟩])
      (livePathsOf (routesOf (server c s).2) subnet).head? := by
  cases c with
  | connections => exact h.elim
  | installed =>
      have hroutes : routesOf (server .installed s).2 = routesOf s := by
        rcases hconforms.installed s with ⟨_, _, hroutes⟩ | ⟨_, hroutes⟩
        · exact hroutes
        · exact hroutes
      rw [hroutes]
      simpa [writesTo, Call.isAbout] using Turns.nil
  | upsert i =>
      have hfree : livePathsOf (routesOf s) i.subnet = [] := h
      rcases hconforms.upsert i s with ⟨failure, hanswer, hroutes⟩ | ⟨hanswer, hroutes⟩
      · rw [hroutes, hanswer]
        exact .nil
      · rw [hroutes, hanswer, livePathsOf_write]
        by_cases hs : i.subnet = subnet
        · subst hs
          simpa [writesTo, Call.isAbout, Except.isOk, Except.toBool, hfree] using
            Turns.upsert (i := i) .nil
        · simpa [writesTo, Call.isAbout, hs] using Turns.nil
  | delete i =>
      obtain ⟨hlive, -⟩ : livePathsOf (routesOf s) i.subnet = [i.nextHop] ∧ _ := h
      rcases hconforms.delete i s with ⟨failure, hanswer, hroutes⟩ | ⟨hanswer, hroutes⟩
      · rw [hroutes, hanswer]
        exact .nil
      · rw [hroutes, hanswer, livePathsOf_erase]
        by_cases hs : i.subnet = subnet
        · subst hs
          simpa [writesTo, Call.isAbout, Except.isOk, Except.toBool, hlive] using
            Turns.delete (i := i) .nil
        · simpa [writesTo, Call.isAbout, hs] using Turns.nil

/-- The calls of a task that come in their turn take turns. -/
theorem Task.turns_of_inTurn {now : Nat} {α : Type} {t : Router.Work α} {r : Router} {s : σ}
    (h : ∀ m ∈ t.trace server now r s, m.InTurn routesOf) (subnet : Network) :
    Turns (livePathsOf (routesOf s) subnet).head? (writesTo subnet (t.trace server now r s))
      (livePathsOf (routesOf (t.run server now r s).2.2) subnet).head? := by
  induction t generalizing r s with
  | done a => exact .nil
  | acquire next ih => exact ih now r h
  | save state next ih => exact ih h
  | call c next ih =>
      obtain ⟨hturn, hnext⟩ := List.forall_mem_cons.mp h
      have hrest := ih _ hnext
      rw [trace, ← List.singleton_append, writesTo_append]
      exact (hturn.turn hconforms subnet).append hrest

end

namespace Router

variable {now : Nat} {r state : Router} {s : σ} {intent : Intent}

/-- In VPP mode a due pass makes no call. -/
theorem trace_reconcileIfDue_vpp :
    (reconcileIfDue .vpp now r).trace server now state s = [] := by
  unfold reconcileIfDue
  split <;> rfl

/-- A delete clears the way only where the table takes a path to be live, and then it is. -/
theorem clearTheWay_inTurn (hi : intent.Canonical)
    (hcovers : r.desired.Covers (fun _ => 1) (routesOf s)) :
    ∀ m ∈ (clearTheWay .vpp intent r).trace server now r s, m.InTurn routesOf := by
  unfold clearTheWay
  cases hget : r.desired.get? intent.subnet with
  | none => exact List.forall_mem_nil _
  | some old =>
      cases hmark : r.desired.isWithdrawn intent.subnet with
      | true => exact List.forall_mem_nil _
      | false =>
          have hsubnet : (Intent.of intent.subnet old).subnet = intent.subnet := hi
          have hlive : r.desired.liveHop? intent.subnet = some old :=
            (DesiredTable.liveHop?_eq_some_iff ..).mpr ⟨hget, hmark⟩
          have hpaths : livePathsOf (routesOf s) intent.subnet = [old] := by
            rw [hcovers.livePathsOf_eq, hlive]
            rfl
          rw [← hsubnet] at hlive hpaths
          simp only [Mode.replacesRoutes, Bool.or_self, Bool.false_eq_true, if_false]
          refine List.forall_mem_cons.mpr ⟨⟨hpaths, hlive⟩, ?_⟩
          cases (server (.delete (.of intent.subnet old)) s).1 with
          | error failure => exact List.forall_mem_nil _
          | ok _ => exact List.forall_mem_nil _

/-- Where no path is live, a write comes in its turn. -/
theorem writeAndRecord_inTurn (hfree : livePathsOf (routesOf s) intent.subnet = []) :
    ∀ m ∈ (writeAndRecord intent r).trace server now state s, m.InTurn routesOf := by
  refine List.forall_mem_cons.mpr ⟨hfree, ?_⟩
  cases (server (.upsert intent) s).1 with
  | error failure => exact List.forall_mem_nil _
  | ok _ => exact List.forall_mem_nil _

/-- Once the way is clear, no path is live. -/
theorem clearTheWay_frees (hconforms : Conforms .vpp server routesOf) (hi : intent.Canonical)
    (hcovers : r.desired.Covers (fun _ => 1) (routesOf s)) {r' : Router}
    (hcleared : ((clearTheWay .vpp intent r).run server now r s).1 = .ok r') :
    livePathsOf (routesOf ((clearTheWay .vpp intent r).run server now r s).2.2)
      intent.subnet = [] := by
  have hclear : (clearTheWay .vpp intent r).Ensures server now _ _ r s :=
    clearTheWay_ensures hconforms hi Nat.one_pos hcovers
  obtain ⟨-, hroom⟩ := hclear.run.2 r' hcleared
  exact List.eq_nil_of_length_eq_zero (Nat.lt_one_iff.mp hroom)

/-- The calls of an injection come in their turn. -/
theorem inject_inTurn (hconforms : Conforms .vpp server routesOf) (hi : intent.Canonical)
    (hcovers : r.desired.Covers (fun _ => 1) (routesOf s)) :
    ∀ m ∈ (inject .vpp intent).trace server now r s, m.InTurn routesOf := by
  obtain ⟨clock, hpass⟩ := run_reconcileIfDue_vpp server now r s
  rw [inject_eq]
  simp only [Task.trace, Task.trace_bind, trace_reconcileIfDue_vpp, hpass, List.nil_append]
  split
  · exact List.forall_mem_nil _
  · rw [Task.trace_bind]
    refine List.forall_mem_append.mpr ⟨clearTheWay_inTurn hi hcovers, ?_⟩
    cases hcleared : ((clearTheWay .vpp intent { r with clock }).run server now
        { r with clock } s).1 with
    | error failure => exact List.forall_mem_nil _
    | ok r' => exact writeAndRecord_inTurn (clearTheWay_frees hconforms hi hcovers hcleared)

end Router

/-- The calls of any request come in their turn. -/
theorem Request.work_inTurn (hconforms : Conforms .vpp server routesOf) {now : Nat} {r : Router}
    {s : σ} (hcovers : r.desired.Covers (fun _ => 1) (routesOf s)) (q : Request) :
    ∀ m ∈ (q.work .vpp).trace server now r s, m.InTurn routesOf := by
  cases q with
  | inject subnetText nextHopText =>
      simp only [work, Router.injectRoute]
      cases hparse : Intent.parse subnetText nextHopText with
      | error failure => exact List.forall_mem_nil _
      | ok intent =>
          rw [Task.trace_bind, Task.trace, List.append_nil]
          exact Router.inject_inTurn hconforms (Intent.parse_canonical hparse) hcovers
  | reconcile => exact List.forall_mem_nil _
  | recover =>
      rw [trace_recover]
      exact List.forall_mem_singleton.mpr trivial

namespace Site

variable {ε : Type} {x : Site σ ε} {s : Session σ}

section

variable (hmode : x.mode = .vpp) (hconforms : Conforms .vpp x.server routesOf)
  (hchange : ∀ e s, routesOf (x.change e s) = routesOf s)
include hmode hconforms hchange

/-- An event keeps the cover, its calls come in their turn, and those about a subnet take turns. -/
theorem step_inTurn (hcovers : s.router.desired.Covers (fun _ => 1) (routesOf s.backend))
    (e : Event ε) (subnet : Network) :
    (∀ m ∈ x.callsOf s e, m.InTurn routesOf) ∧
      Turns (s.router.desired.liveHop? subnet) (writesTo subnet (x.callsOf s e))
        ((x.step s e).router.desired.liveHop? subnet) := by
  have hnext : (x.step s e).router.desired.Covers (fun _ => 1) (routesOf (x.step s e).backend) :=
    run_covers hmode hconforms (fun _ => Nat.one_pos) hchange hcovers [e]
  rw [← hcovers.head?_livePathsOf, ← hnext.head?_livePathsOf]
  cases e with
  | request q =>
      have hturn : ∀ m ∈ (q.work .vpp).trace x.server s.now s.router s.backend,
          m.InTurn routesOf := q.work_inTurn hconforms hcovers
      simp only [callsOf, step, serve, hmode]
      exact ⟨hturn, Task.turns_of_inTurn hconforms hturn subnet⟩
  | advance duration => exact ⟨List.forall_mem_nil _, .nil⟩
  | outside e =>
      refine ⟨List.forall_mem_nil _, ?_⟩
      simp only [step, hchange]
      exact .nil

/-- So it is with any events. -/
theorem run_inTurn (hcovers : s.router.desired.Covers (fun _ => 1) (routesOf s.backend))
    (events : List (Event ε)) (subnet : Network) :
    (∀ m ∈ x.trace events s, m.InTurn routesOf) ∧
      Turns (s.router.desired.liveHop? subnet) (writesTo subnet (x.trace events s))
        ((x.run events s).router.desired.liveHop? subnet) := by
  induction events generalizing s with
  | nil => exact ⟨List.forall_mem_nil _, .nil⟩
  | cons e events ih =>
      obtain ⟨hturn, hturns⟩ := step_inTurn hmode hconforms hchange hcovers e subnet
      obtain ⟨hrest, hturns'⟩ := ih
        (run_covers hmode hconforms (fun _ => Nat.one_pos) hchange hcovers [e])
      rw [trace, writesTo_append]
      exact ⟨List.forall_mem_append.mpr ⟨hturn, hrest⟩, hturns.append hturns'⟩

end

end Site

/-- **Deletes before adds.** Over a VPP-mode backend that starts without routes, the successful
writes and deletes of a subnet take turns, each delete naming the next hop of the write before
it. Whenever a delete is issued, the path that it names is the only live one of its subnet, and
it is recorded and not withdrawn. A pass makes no call, and a recovery only lists the routes. -/
theorem writes_take_turns {ε : Type} {x : Site σ ε} (hmode : x.mode = .vpp)
    (hconforms : Conforms .vpp x.server routesOf)
    (hchange : ∀ e s, routesOf (x.change e s) = routesOf s) (backend : σ)
    (hempty : routesOf backend = []) (interval started : Nat) (events : List (Event ε))
    (subnet : Network) :
    let s := Session.start interval started backend
    Turns none (writesTo subnet (x.trace events s))
      ((x.run events s).router.desired.liveHop? subnet) ∧
    (∀ m ∈ x.trace events s, ∀ i, m.call = .delete i →
      livePathsOf (routesOf m.before) i.subnet = [i.nextHop] ∧
        m.state.desired.get? i.subnet = some i.nextHop ∧
        m.state.desired.isWithdrawn i.subnet = false) ∧
    ∀ s', x.callsOf s' (.request .reconcile) = [] ∧
      (x.callsOf s' (.request .recover)).map (·.call) = [.installed] := by
  intro s
  have hcovers : s.router.desired.Covers (fun _ => 1) (routesOf s.backend) := by
    show DesiredTable.empty.Covers (fun _ => 1) (routesOf backend)
    rw [hempty]
    exact DesiredTable.empty_covers_nil
  obtain ⟨hturn, hturns⟩ := Site.run_inTurn hmode hconforms hchange hcovers events subnet
  refine ⟨hturns, fun m hm i hcall => ?_, fun s' => ⟨?_, ?_⟩⟩
  · have hdelete := hturn m hm
    simp only [Moment.InTurn, hcall] at hdelete
    exact ⟨hdelete.1, (DesiredTable.liveHop?_eq_some_iff ..).mp hdelete.2⟩
  · rw [Site.callsOf, hmode]
    rfl
  · rw [Site.callsOf, Request.trace_recover]
    rfl

/-- A subnet that is asked for through one host, twice through another, and then through the
first again. -/
private def wavering : List (Event Empty) :=
  ["192.168.3.1", "192.168.3.5", "192.168.3.5", "192.168.3.1"].map
    fun nextHop => .request (.inject "10.1.0.0/16" nextHop)

/-- A backend that fails at its second and at its fourth call. -/
private def unreliable : Site (List Bool × Recording) Empty :=
  .closed .vpp (Server.guarded (Server.scripted (.unreachable .vpp "call" "connection lost"))
    (Recording.server .vpp))

/-- The first change of mind fails at its delete and the second at its write. The third finds
the way clear, so of five calls a write, a delete and a write succeed. -/
theorem writes_take_turns_of_wavering :
    let s := Session.start 60000 0 ([false, true, false, true], ({} : Recording))
    let subnet : Network := ⟨.ofOctets 10 1 0 0, 16, by decide⟩
    let first : Intent := ⟨subnet, .ofOctets 192 168 3 1⟩
    let second : Intent := ⟨subnet, .ofOctets 192 168 3 5⟩
    (unreliable.trace wavering s).map (·.call) =
        [.upsert first, .delete first, .delete first, .upsert second, .upsert first] ∧
      writesTo subnet (unreliable.trace wavering s) =
        [.upsert first, .delete first, .upsert first] ∧
      Turns none (writesTo subnet (unreliable.trace wavering s))
        ((unreliable.run wavering s).router.desired.liveHop? subnet) := by
  have hconforms : Conforms .vpp unreliable.server fun s => s.2.installed :=
    (recording_conforms .vpp).guarded _
  have h := writes_take_turns rfl hconforms nofun ([false, true, false, true], {}) rfl 60000 0
    wavering ⟨.ofOctets 10 1 0 0, 16, by decide⟩
  exact ⟨by decide +kernel, by decide +kernel, h.1⟩

end RouteKeeper
