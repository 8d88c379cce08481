import RouteKeeper.Proofs.DuePass

/-!
# Routes of the table

In kernel mode a router that adopts nothing records only what it has written itself. A write
leaves a single route to its subnet, so each recorded subnet has the recorded route and no other,
and the routes to all other destinations are those of the start. Then nothing is ever out of
sync, and no pass finds anything to write.

## Implementation notes

Recovery is left out. It may adopt the first of several routes to a subnet, which the next pass
compares with the last.
-/

namespace RouteKeeper

open Recording Dataplane

/-- The table owns the routes to its subnets: each is the only one and is not withdrawn. All
other routes are initial ones. -/
structure DesiredTable.Owns (initial : List InstalledRoute) (t : DesiredTable)
    (routes : List InstalledRoute) : Prop where
  wellFormed : t.WellFormed
  unmarked : t.withdrawn = []
  own : ∀ subnet nextHop, t.get? subnet = some nextHop →
    routesTo routes subnet = [routeOf ⟨subnet, nextHop⟩]
  rest : ∀ keep : Option Network → Bool,
    (∀ subnet nextHop, t.get? subnet = some nextHop → keep (some subnet) = false) →
      routes.filter (keep ·.destination) = initial.filter (keep ·.destination)

namespace DesiredTable

variable {initial routes : List InstalledRoute} {t : DesiredTable}

/-- The empty table owns no route. -/
theorem empty_owns (routes : List InstalledRoute) : empty.Owns routes routes where
  wellFormed := empty_wellFormed
  unmarked := rfl
  own subnet nextHop hget := by simp at hget
  rest keep _ := rfl

/-- What is owned is in sync. -/
theorem Owns.inSync (h : t.Owns initial routes) :
    ∀ i ∈ t.toList, Reconciliation.inSync routes i = true := by
  intro i hi
  have hget : t.get? i.subnet = some i.nextHop := h.wellFormed.mem_toList_iff.mp hi
  exact Reconciliation.inSync_of_routesTo_eq (h.own i.subnet i.nextHop hget)

/-- A write that is recorded is owned, whatever stood in its place. -/
theorem Owns.write_record {i : Intent} (h : t.Owns initial routes) (hi : i.Canonical) :
    (t.record i).Owns initial (write .kernel i routes) where
  wellFormed := h.wellFormed.record hi
  unmarked := by simp [record, h.unmarked]
  own subnet nextHop hget := by
    by_cases hs : i.subnet = subnet
    · subst hs
      obtain rfl : i.nextHop = nextHop := by simpa using hget
      exact routesTo_write_self i routes
    · rw [get?_record_of_ne t i subnet hs] at hget
      rw [← h.own subnet nextHop hget]
      exact routesTo_write_of_ne hs routes
  rest keep hkeep := by
    have hi : keep (some i.subnet) = false := hkeep _ _ (get?_record_self t i)
    rw [filter_write keep hi]
    refine h.rest keep fun subnet nextHop hget => ?_
    by_cases hs : i.subnet = subnet
    · exact hs ▸ hi
    · exact hkeep subnet nextHop ((get?_record_of_ne t i subnet hs).trans hget)

end DesiredTable

namespace Router

variable {σ : Type} {server : Server dataplane σ} {routesOf : σ → List InstalledRoute}
  {initial : List InstalledRoute} {now : Nat} {r : Router} {s : σ}

/-- A write is one call, whatever becomes of it. -/
theorem calls_writeAndRecord (i : Intent) (r state : Router) :
    ((writeAndRecord i r).trace server now state s).map (·.call) = [.upsert i] := by
  refine congrArg (List.cons _) ?_
  cases (server (.upsert i) s).1 with
  | error failure => rfl
  | ok _ => rfl

variable (now) (hconforms : Conforms .kernel server routesOf)
  (howns : r.desired.Owns initial (routesOf s))
include hconforms howns

/-- A pass over owned routes lists them and is done. -/
theorem pass_of_owns :
    let pass : Work _ := Task.ofProgram (Reconciliation.pass .kernel r.desired)
    (pass.run server now r s).2.1 = r ∧ routesOf (pass.run server now r s).2.2 = routesOf s ∧
      (pass.trace server now r s).map (·.call) = [.installed] := by
  have hdetects : Mode.kernel.detectsDrift = true := rfl
  intro pass
  simp only [pass, ofProgram_pass, if_pos hdetects, Task.run, Task.trace]
  rcases hconforms.installed s with ⟨failure, hanswer, hroutes⟩ | ⟨hanswer, hroutes⟩
  · simp only [hanswer]
    exact ⟨rfl, hroutes, rfl⟩
  · simp only [hanswer, Reconciliation.repair_of_inSync howns.inSync]
    exact ⟨rfl, hroutes, rfl⟩

/-- So a due pass moves the clock and nothing else. -/
theorem reconcileIfDue_of_owns :
    ∃ clock s', (reconcileIfDue .kernel now r).run server now r s =
        ({ r with clock }, { r with clock }, s') ∧ routesOf s' = routesOf s ∧
      ((reconcileIfDue .kernel now r).trace server now r s).map (·.call) =
        if r.clock.isDue now then [.installed] else [] := by
  obtain ⟨-, hroutes, hcalls⟩ := pass_of_owns now hconforms howns
  by_cases hdue : r.clock.isDue now = true
  · rw [if_pos hdue]
    refine ⟨_, _, run_reconcileIfDue_of_due hdue s, hroutes, ?_⟩
    rw [trace_reconcileIfDue_of_due hdue, hcalls]
  · rw [if_neg hdue, reconcileIfDue, if_neg hdue]
    exact ⟨r.clock, s, rfl, rfl, rfl⟩

variable {i : Intent} (hi : i.Canonical)
include hi

/-- A write keeps the table the owner. It is recorded if it succeeds, and nothing else is. -/
theorem writeAndRecord_of_owns :
    let result := (writeAndRecord i r).run server now r s
    result.2.1.desired.Owns initial (routesOf result.2.2) ∧
      ∀ subnet nextHop, result.2.1.desired.get? subnet = some nextHop →
        r.desired.get? subnet = some nextHop ∨ i.subnet = subnet ∧ result.1 = .ok () := by
  simp only [writeAndRecord, Task.run]
  rcases hconforms.upsert i s with ⟨failure, hanswer, hroutes⟩ | ⟨hanswer, hroutes⟩
  · simp only [hanswer]
    exact ⟨hroutes ▸ howns, fun subnet nextHop hget => Or.inl hget⟩
  · simp only [hanswer]
    refine ⟨hroutes ▸ howns.write_record hi, fun subnet nextHop hget => ?_⟩
    by_cases hs : i.subnet = subnet
    · exact Or.inr ⟨hs, rfl⟩
    · exact Or.inl ((DesiredTable.get?_record_of_ne r.desired i subnet hs).symm.trans hget)

/-- So does an injection. Besides the listing of a due pass its only call is its own write. -/
theorem inject_of_owns :
    let result := (inject .kernel i).run server now r s
    result.2.1.desired.Owns initial (routesOf result.2.2) ∧
      (∀ subnet nextHop, result.2.1.desired.get? subnet = some nextHop →
        r.desired.get? subnet = some nextHop ∨ i.subnet = subnet ∧ result.1 = .ok ()) ∧
      ((inject .kernel i).trace server now r s).map (·.call) =
        (if r.clock.isDue now then [.installed] else []) ++
          if r.desired.isCurrent i then [] else [.upsert i] := by
  obtain ⟨clock, s', hpass, hroutes, hcalls⟩ :=
    reconcileIfDue_of_owns now hconforms howns
  rw [← hroutes] at howns
  simp only [inject_eq, Task.run, Task.trace, Task.run_bind, Task.trace_bind, hpass,
    List.map_append, hcalls]
  by_cases hcurrent : r.desired.isCurrent i = true
  · simp only [if_pos hcurrent]
    exact ⟨howns, fun subnet nextHop hget => Or.inl hget, rfl⟩
  · simp only [if_neg hcurrent, clearTheWay_kernel]
    obtain ⟨howns', hrecorded⟩ :=
      writeAndRecord_of_owns (r := { r with clock }) now hconforms howns hi
    refine ⟨howns', hrecorded, congrArg _ ?_⟩
    exact calls_writeAndRecord i _ _

end Router

/-- The calls of a request where nothing is out of sync: a pass lists the routes, and the one write
is that of an injection. -/
def Request.quietCalls (now : Nat) (r : Router) : Request → List Call
  | inject subnetText nextHopText =>
    match Intent.parse subnetText nextHopText with
    | .error _ => []
    | .ok i =>
      (if r.clock.isDue now then [.installed] else []) ++
        if r.desired.isCurrent i then [] else [.upsert i]
  | reconcile | recover => [.installed]

theorem Request.delete_not_mem_quietCalls (now : Nat) (r : Router) (q : Request) (i : Intent) :
    .delete i ∉ q.quietCalls now r := by
  cases q with
  | inject subnetText nextHopText =>
      simp only [quietCalls]
      split
      · simp
      · split <;> split <;> simp
  | reconcile => simp [quietCalls]
  | recover => simp [quietCalls]

section

variable {σ : Type} {server : Server dataplane σ} {routesOf : σ → List InstalledRoute}
  {initial : List InstalledRoute} (now : Nat) {r : Router} {s : σ}
  (hconforms : Conforms .kernel server routesOf) (howns : r.desired.Owns initial (routesOf s))
include hconforms howns

/-- Over owned routes a request makes its quiet calls. -/
theorem Request.calls_of_owns (q : Request) :
    ((q.work .kernel).trace server now r s).map (·.call) = q.quietCalls now r := by
  cases q with
  | inject subnetText nextHopText =>
      simp only [work, Router.injectRoute, quietCalls]
      cases hparse : Intent.parse subnetText nextHopText with
      | error failure => rfl
      | ok i =>
          rw [Task.trace_bind, Task.trace, List.append_nil]
          exact (Router.inject_of_owns now hconforms howns (Intent.parse_canonical hparse)).2.2
  | reconcile =>
      obtain ⟨-, -, hcalls⟩ := Router.pass_of_owns now hconforms howns
      simp only [work, Router.reconcileNow_eq, Task.bind, Task.trace, Task.trace_bind,
        List.append_nil]
      exact hcalls
  | recover => rw [trace_recover]; rfl

/-- Any request but a recovery leaves the table the owner, and records only what it injects. -/
theorem Request.work_of_owns {q : Request} (hq : q ≠ .recover) :
    let result := (q.work .kernel).run server now r s
    result.2.1.desired.Owns initial (routesOf result.2.2) ∧
      ∀ subnet nextHop, result.2.1.desired.get? subnet = some nextHop →
        r.desired.get? subnet = some nextHop ∨
          q.subnet? = some subnet ∧ result.1 = .injected (.ok ()) := by
  cases q with
  | inject subnetText nextHopText =>
      simp only [work, Router.injectRoute]
      cases hparse : Intent.parse subnetText nextHopText with
      | error failure => exact ⟨howns, fun _ _ hget => Or.inl hget⟩
      | ok i =>
          obtain ⟨howns', hrecorded, -⟩ :=
            Router.inject_of_owns now hconforms howns (Intent.parse_canonical hparse)
          simp only [Task.run_bind, Task.run]
          refine ⟨howns', fun subnet nextHop hget => (hrecorded subnet nextHop hget).imp_right ?_⟩
          rintro ⟨hs, hok⟩
          exact ⟨hs ▸ subnet?_inject hparse, congrArg Outcome.injected hok⟩
  | reconcile =>
      obtain ⟨-, hroutes, -⟩ := Router.pass_of_owns now hconforms howns
      simp only [work, Router.reconcileNow_eq, Task.bind, Task.run, Task.run_bind, hroutes]
      exact ⟨howns, fun _ _ hget => Or.inl hget⟩
  | recover => exact absurd rfl hq

end

namespace Site

variable {σ ε : Type} {x : Site σ ε} {routesOf : σ → List InstalledRoute}
  {initial : List InstalledRoute} (hmode : x.mode = .kernel)
  (hconforms : Conforms .kernel x.server routesOf)
  (hchange : ∀ e s, routesOf (x.change e s) = routesOf s)
include hmode hconforms hchange

/-- An event that is no recovery leaves the table the owner. What it records it answers with
success, and it deletes nothing. -/
theorem step_owns {s : Session σ} (howns : s.router.desired.Owns initial (routesOf s.backend))
    {e : Event ε} (he : e ≠ .request .recover) :
    (x.step s e).router.desired.Owns initial (routesOf (x.step s e).backend) ∧
      (∀ subnet nextHop, (x.step s e).router.desired.get? subnet = some nextHop →
        s.router.desired.get? subnet = some nextHop ∨
          ∃ q, (q, .injected (.ok ())) ∈ x.answersOf s e ∧ q.subnet? = some subnet) ∧
      ∀ m ∈ x.callsOf s e, ∀ i, m.call ≠ .delete i := by
  cases e with
  | advance duration => exact ⟨howns, fun _ _ hget => Or.inl hget, List.forall_mem_nil _⟩
  | outside e =>
      refine ⟨?_, fun _ _ hget => Or.inl hget, List.forall_mem_nil _⟩
      rw [← hchange e] at howns
      exact howns
  | request q =>
      have hq : q ≠ .recover := fun h => he (h ▸ rfl)
      obtain ⟨howns', hrecorded⟩ := Request.work_of_owns s.now hconforms howns hq
      simp only [step, serve, answersOf, callsOf, hmode]
      refine ⟨howns', fun subnet nextHop hget => ?_, fun m hm i hcall => ?_⟩
      · refine (hrecorded subnet nextHop hget).imp_right fun h => ⟨q, ?_, h.1⟩
        rw [h.2]
        exact List.mem_singleton_self _
      · have hcalls := Request.calls_of_owns s.now hconforms howns q
        refine q.delete_not_mem_quietCalls s.now s.router i ?_
        rw [← hcalls, ← hcall]
        exact List.mem_map_of_mem hm

/-- So it is with any events among which is no recovery. -/
theorem run_owns {s : Session σ} (howns : s.router.desired.Owns initial (routesOf s.backend))
    {events : List (Event ε)} (hrecover : .request .recover ∉ events) :
    (x.run events s).router.desired.Owns initial (routesOf (x.run events s).backend) ∧
      (∀ subnet nextHop, (x.run events s).router.desired.get? subnet = some nextHop →
        s.router.desired.get? subnet = some nextHop ∨
          ∃ q, (q, .injected (.ok ())) ∈ x.answers events s ∧ q.subnet? = some subnet) ∧
      ∀ m ∈ x.trace events s, ∀ i, m.call ≠ .delete i := by
  induction events generalizing s with
  | nil => exact ⟨howns, fun _ _ hget => Or.inl hget, List.forall_mem_nil _⟩
  | cons e rest ih =>
      have he : e ≠ .request .recover := Ne.symm (List.ne_of_not_mem_cons hrecover)
      obtain ⟨hstep, hrecorded, hkept⟩ := step_owns hmode hconforms hchange howns he
      obtain ⟨hend, hrecorded', hkept'⟩ := ih hstep (List.not_mem_of_not_mem_cons hrecover)
      refine ⟨hend, fun subnet nextHop hget => ?_, List.forall_mem_append.mpr ⟨hkept, hkept'⟩⟩
      rcases hrecorded' subnet nextHop hget with hget | ⟨q, hq, hsubnet⟩
      · refine (hrecorded subnet nextHop hget).imp_right fun ⟨q, hq, hsubnet⟩ => ?_
        exact ⟨q, List.mem_append_left _ hq, hsubnet⟩
      · exact Or.inr ⟨q, List.mem_append_right _ hq, hsubnet⟩

end Site

/-- **Nothing but what is injected.** Let a router of kernel mode serve injections and passes over
any routes, while time passes and calls fail in any pattern. After each event every recorded
subnet has exactly one route, through the recorded next hop, and none is withdrawn. The routes to
all destinations that were not injected with success are those of the start, in their order.
Nothing is deleted, a pass only lists the routes, and the one write of an injection is its own. -/
theorem installed_eq_recorded_or_initial {γ : Type}
    (guard : Dataplane.Call → γ → Option Failure × γ) (g : γ) (r : Recording)
    (interval started : Nat) {events : List (Event (Interference γ))}
    (hrecover : .request .recover ∉ events) :
    let x := Recording.site .kernel guard
    let first := Session.start interval started (g, r)
    let s := x.run events first
    (∀ subnet nextHop, s.router.desired.get? subnet = some nextHop →
      ∃ route, s.backend.2.installed.filter (·.destination == some subnet) = [route] ∧
        route.gateway = some nextHop) ∧
    (∀ keep : Option Network → Bool,
      (∀ q, (q, .injected (.ok ())) ∈ x.answers events first → keep q.subnet? = false) →
        s.backend.2.installed.filter (keep ·.destination) =
          r.installed.filter (keep ·.destination)) ∧
    s.router.desired.withdrawn = [] ∧
    (∀ m ∈ x.trace events first, ∀ i, m.call ≠ .delete i) ∧
    (x.callsOf s (.request .reconcile)).map (·.call) = [.installed] ∧
    ∀ subnetText nextHopText i, Intent.parse subnetText nextHopText = .ok i →
      (x.callsOf s (.request (.inject subnetText nextHopText))).map (·.call) =
        (if s.router.clock.isDue s.now then [.installed] else []) ++
          if s.router.desired.isCurrent i then [] else [.upsert i] := by
  intro x first s
  have hconforms : Conforms .kernel x.server fun s => s.2.installed :=
    (recording_conforms .kernel).guarded guard
  obtain ⟨howns, hrecorded, hkept⟩ := Site.run_owns (s := first) rfl hconforms
    Interference.installed_apply (DesiredTable.empty_owns r.installed) hrecover
  refine ⟨fun subnet nextHop hget => ⟨_, howns.own subnet nextHop hget, rfl⟩, ?_, howns.unmarked,
    hkept, ?_, ?_⟩
  · intro keep hkeep
    refine howns.rest keep fun subnet nextHop hget => ?_
    rcases hrecorded subnet nextHop hget with hget | ⟨q, hq, hsubnet⟩
    · cases hget
    · exact hsubnet ▸ hkeep q hq
  · exact Request.calls_of_owns s.now hconforms howns .reconcile
  · intro subnetText nextHopText i hparse
    have hcalls := Request.calls_of_owns s.now hconforms howns
      (.inject subnetText nextHopText)
    rw [Request.quietCalls, hparse] at hcalls
    exact hcalls

/-- Two paths of one subnet and one of another. -/
private def crowded : Recording where
  installed := [⟨some (.host (.ofOctets 10 1 0 7)), some (.ofOctets 192 168 3 9), some 3⟩,
    ⟨some (.host (.ofOctets 10 2 0 7)), some (.ofOctets 192 168 3 9), some 3⟩,
    ⟨some (.host (.ofOctets 10 1 0 7)), some (.ofOctets 192 168 3 7), some 3⟩]

/-- The first subnet is injected. Then its writes fail, a pass becomes due, and another next hop
is asked for. -/
private def refusedChange : List (Event (Interference Unit)) :=
  [.request (.inject "10.1.0.7/32" "192.168.3.1"),
    .outside (.failFor (.host (.ofOctets 10 1 0 7))), .advance 60000,
    .request (.inject "10.1.0.7/32" "192.168.3.5"), .request .reconcile]

/-- The injected subnet keeps the one route that was written, and the other one its own. -/
theorem installed_eq_recorded_or_initial_of_refusal :
    let x := Recording.site .kernel fun _ g => (none, g)
    let first := Session.start 60000 0 ((), crowded)
    let s := x.run refusedChange first
    .request .recover ∉ refusedChange ∧
      s.router.desired.get? (.host (.ofOctets 10 1 0 7)) =
        some (.ofOctets 192 168 3 1) ∧
      (∃ route, s.backend.2.installed.filter
          (·.destination == some (.host (.ofOctets 10 1 0 7))) = [route] ∧
        route.gateway = some (.ofOctets 192 168 3 1)) ∧
      s.backend.2.installed.filter
          (·.destination == some (.host (.ofOctets 10 2 0 7))) =
        [⟨some (.host (.ofOctets 10 2 0 7)), some (.ofOctets 192 168 3 9), some 3⟩] ∧
      ∀ m ∈ x.trace refusedChange first, ∀ i, m.call ≠ .delete i := by
  have hrecover : .request .recover ∉ refusedChange := by simp [refusedChange]
  obtain ⟨hown, hrest, -, hkept, -⟩ := installed_eq_recorded_or_initial
    (fun _ g => (none, g)) () crowded 60000 0 hrecover
  have hothers : ∀ answer ∈ (Recording.site .kernel fun _ g => (none, g)).answers refusedChange
      (.start 60000 0 ((), crowded)),
      answer.1.subnet? ≠ some (.host (.ofOctets 10 2 0 7)) := by decide +kernel
  refine ⟨hrecover, by decide +kernel, hown _ _ (by decide +kernel), ?_, hkept⟩
  exact hrest (· == some (.host (.ofOctets 10 2 0 7))) fun q hq =>
    beq_eq_false_iff_ne.mpr (hothers _ hq)

end RouteKeeper
