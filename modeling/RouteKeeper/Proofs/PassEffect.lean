import RouteKeeper.Proofs.DuePass

/-!
# The effect of a pass

A pass is told whole by the listing that it starts with and by how its writes end. It writes each
desired route once, in the order of the subnets, unless the last route listed for the subnet has
the desired next hop, and it goes on after a write that fails. The report counts what was desired,
what was written and what failed to be. A backend whose drift is not looked for is not called.

## Implementation notes

The backend is any server. It may answer each call in any way and change with every call.
-/

namespace RouteKeeper.Reconciliation

open Recording Dataplane

/-- The last route listed for the subnet of an intent goes through its next hop. -/
def LastListedVia (i : Intent) (listed : List InstalledRoute) : Prop :=
  ∃ r, (routesTo listed i.subnet).getLast? = some r ∧ r.gateway = some i.nextHop

theorem inSync_iff_lastListedVia {i : Intent} {listed : List InstalledRoute} :
    inSync listed i = true ↔ LastListedVia i listed :=
  inSync_iff.trans Option.map_eq_some_iff

theorem mem_drifted_iff {i : Intent} {listed : List InstalledRoute} {intents : List Intent} :
    i ∈ drifted listed intents ↔ i ∈ intents ∧ ¬LastListedVia i listed := by
  rw [drifted, List.mem_filter, ← inSync_iff_lastListedVia, Bool.not_eq_true', Bool.not_eq_true]

/-- A call that writes and succeeds. -/
def isWritten (c : Call × Bool) : Bool :=
  c.1.isWrite && c.2

/-- A call that writes and fails. -/
def isRefused (c : Call × Bool) : Bool :=
  c.1.isWrite && !c.2

variable {σ : Type} (server : Server dataplane σ) (s : σ)

/-- The calls of the repair of a listing. -/
theorem trace_repair (listed : List InstalledRoute) (intents : List Intent) (report : Report) :
    ((repair listed intents report).trace server s).map Prod.fst =
      (drifted listed intents).map .upsert := by
  rw [← Task.trace_ofProgram server 0 (repair listed intents report) (default : Router) s,
    List.map_map]
  exact calls_repair ..

/-- A repair counts every intent, and every write by how it ends. -/
theorem report_repair (listed : List InstalledRoute) (intents : List Intent) (report : Report) :
    ((repair listed intents report).run server s).1 =
      ⟨report.checked + intents.length,
        report.repaired + ((repair listed intents report).trace server s).countP isWritten,
        report.failed + ((repair listed intents report).trace server s).countP isRefused⟩ := by
  induction intents generalizing report s with
  | nil => rfl
  | cons i rest ih =>
      by_cases hsync : inSync listed i = true
      · rw [repair, if_pos hsync, ih]
        simp [Report.kept, Nat.add_assoc, Nat.add_comm 1]
      · rw [repair_cons_of_not_inSync hsync, Program.run_call, ih, Program.trace]
        cases (server (.upsert i) s).1 with
        | error failure =>
            simp [Report.written, isWritten, isRefused, Call.isWrite, Except.isOk, Except.toBool,
              Nat.add_assoc, Nat.add_comm 1]
        | ok _ =>
            simp [Report.written, isWritten, isRefused, Call.isWrite, Except.isOk, Except.toBool,
              Nat.add_assoc, Nat.add_comm 1]

/-- A pass that looks for drift, without its notation. -/
theorem pass_kernel (t : DesiredTable) :
    pass .kernel t = .call .installed fun
      | .error failure => .done (.error failure)
      | .ok listed => (repair listed t.toList {}).bind fun report => .done (.ok report) := rfl

/-- **The effect of a pass.** Let any backend answer the calls of a pass in any way. In kernel mode
a pass whose listing fails ends with that failure and writes nothing. Otherwise it makes one write,
in the order of the subnets, for each desired route whose next hop is not that of the last route
listed for its subnet, whatever the writes before it came to, and no other call. It then reports how
many routes are desired, how many writes succeeded and how many failed. In VPP mode it makes no
call and reports nothing. -/
theorem pass_writes_drifted_once {t : DesiredTable} (ht : t.WellFormed) :
    let trace (mode : Mode) := (pass mode t).trace server s
    let result (mode : Mode) := (pass mode t).run server s
    (∀ failure, (server .installed s).1 = .error failure →
      trace .kernel = [(.installed, false)] ∧ (result .kernel).1 = .error failure) ∧
    (∀ listed, (server .installed s).1 = .ok listed →
      ∃ written : List Intent,
        (trace .kernel).map Prod.fst = .installed :: written.map .upsert ∧
        written.Pairwise (fun i j => i.subnet.before j.subnet = true) ∧
        (∀ i, i ∈ written ↔ t.get? i.subnet = some i.nextHop ∧ ¬LastListedVia i listed) ∧
        (result .kernel).1 =
          .ok ⟨t.size, (trace .kernel).countP isWritten, (trace .kernel).countP isRefused⟩) ∧
    trace .vpp = [] ∧ result .vpp = (.ok ⟨0, 0, 0⟩, s) := by
  intro trace result
  have htrace : trace .kernel = (pass .kernel t).trace server s := rfl
  have hresult : result .kernel = (pass .kernel t).run server s := rfl
  rw [pass_kernel] at htrace hresult
  refine ⟨fun failure hfailed => ?_, fun listed hlisted => ?_, rfl, rfl⟩
  · rw [htrace, hresult, Program.run_call, Program.trace, hfailed]
    exact ⟨rfl, rfl⟩
  · rw [Program.run_call, hlisted, Program.run_bind] at hresult
    rw [Program.trace, hlisted, Program.trace_bind, Program.trace, List.append_nil] at htrace
    refine ⟨drifted listed t.toList, ?_, ?_, fun i => ?_, ?_⟩
    · rw [htrace, List.map_cons, trace_repair]
    · rw [drifted, ht.canonical.toList_eq]
      exact ht.ascending.filter _
    · rw [mem_drifted_iff, ht.mem_toList_iff]
    · rw [hresult, htrace, report_repair]
      simp [isWritten, isRefused, Call.isWrite, DesiredTable.toList, DesiredTable.size]

/-- A host of the tunnel network. -/
private def hop (last : Nat) : Address :=
  .ofOctets 192 168 3 last

/-- A remote host. -/
private def remote (number : Nat) : Network :=
  .host (.ofOctets 10 1 0 number)

/-- Three desired routes, of which the second is withdrawn. -/
private def allThree : DesiredTable :=
  ⟨[⟨remote 1, hop 1⟩, ⟨remote 2, hop 1⟩, ⟨remote 3, hop 5⟩], [remote 2]⟩

/-- The first is listed behind a stale path, the second is missing and refused, and the third is
listed once more without its gateway. -/
private def unsteady : Recording where
  installed := [⟨some (remote 3), some (hop 5), none⟩, ⟨some (remote 1), some (hop 9), none⟩,
    ⟨none, some (hop 1), none⟩, ⟨some (remote 3), none, none⟩,
    ⟨some (remote 1), some (hop 1), none⟩]
  failing := [remote 2]

/-- The pass leaves the first, fails for the second and goes on to write the third. -/
theorem pass_writes_drifted_once_of_refusal :
    allThree.WellFormed ∧ ∃ written : List Intent,
      ((pass .kernel allThree).trace (Recording.server .kernel) unsteady).map Prod.fst =
        .installed :: written.map .upsert ∧
      ⟨remote 1, hop 1⟩ ∉ written ∧ ⟨remote 2, hop 1⟩ ∈ written ∧ ⟨remote 3, hop 5⟩ ∈ written ∧
      ((pass .kernel allThree).run (Recording.server .kernel) unsteady).1 = .ok ⟨3, 1, 1⟩ := by
  have hwanted : allThree.WellFormed := by decide
  obtain ⟨-, hlisted, -⟩ := pass_writes_drifted_once (Recording.server .kernel) unsteady hwanted
  obtain ⟨written, hcalls, -, hwritten, hreport⟩ := hlisted unsteady.installed rfl
  refine ⟨hwanted, written, hcalls, fun hfirst => ?_, ?_, ?_, hreport⟩
  · exact ((hwritten _).mp hfirst).2 ⟨_, rfl, rfl⟩
  · refine (hwritten _).mpr ⟨rfl, ?_⟩
    rintro ⟨r, hlast, -⟩
    cases hlast
  · refine (hwritten _).mpr ⟨rfl, ?_⟩
    rintro ⟨r, hlast, hgateway⟩
    obtain rfl : r = ⟨some (remote 3), none, none⟩ := (Option.some.inj hlast).symm
    cases hgateway

end RouteKeeper.Reconciliation
