import RouteKeeper.Proofs.Destination
import RouteKeeper.Proofs.WellFormed

/-!
# What a pass comes to

A pass works from one listing, taken at its start. It still writes what it has to, because each
of its writes touches one subnet and every subnet is desired once. So after a pass over the
recording dataplane only those desired routes are out of sync whose writes are refused, and a
second pass finds nothing else to do.

## Implementation notes

In sync means that the last route listed for the subnet has the desired next hop. Earlier routes
to the subnet do not count, so a pass may leave them where they are.
-/

namespace RouteKeeper

namespace Reconciliation

variable {installed : List InstalledRoute} {i : Intent}

/-- An intent that is out of sync is written, and the rest of the pass follows. -/
theorem repair_cons_of_not_inSync (h : ¬inSync installed i = true) (rest : List Intent)
    (report : Report) :
    repair installed (i :: rest) report =
      .call (.upsert i) fun answer => repair installed rest (report.written answer.isOk) := by
  rw [repair, if_neg h]
  congr 1
  funext answer
  cases answer with
  | error failure => rfl
  | ok _ => rfl

/-- Where every intent is in sync nothing is written. -/
theorem repair_of_inSync {intents : List Intent} (h : ∀ i ∈ intents, inSync installed i = true)
    (report : Report) :
    repair installed intents report =
      .done { report with checked := report.checked + intents.length } := by
  induction intents generalizing report with
  | nil => rfl
  | cons i rest ih =>
      obtain ⟨hi, hrest⟩ := List.forall_mem_cons.mp h
      rw [repair, if_pos hi, ih hrest]
      simp [Report.kept, Nat.add_assoc, Nat.add_comm 1]

/-- The intents that are out of sync. -/
def drifted (installed : List InstalledRoute) (intents : List Intent) : List Intent :=
  intents.filter (!inSync installed ·)

theorem drifted_cons_of_inSync (h : inSync installed i = true) (rest : List Intent) :
    drifted installed (i :: rest) = drifted installed rest := by
  simp [drifted, h]

theorem drifted_cons_of_not_inSync (h : ¬inSync installed i = true) (rest : List Intent) :
    drifted installed (i :: rest) = i :: drifted installed rest := by
  simp [drifted, h]

end Reconciliation

namespace Recording

open Reconciliation

/-- The writes of a pass, whatever was listed for it: each intent that is out of sync with the
listing is written once, in order, and counted by whether the write is refused. -/
theorem run_repair (listed : List InstalledRoute) (intents : List Intent) (report : Report)
    (r : Recording) :
    (repair listed intents report).run (server .kernel) r =
      (⟨report.checked + intents.length,
          report.repaired + ((drifted listed intents).filter (!r.failing.contains ·.subnet)).length,
          report.failed + ((drifted listed intents).filter (r.failing.contains ·.subnet)).length⟩,
        { r with
          calls := r.calls ++ (drifted listed intents).map .upsert
          installed :=
            writeAll .kernel ((drifted listed intents).filter (!r.failing.contains ·.subnet))
              r.installed }) := by
  -- What is out of sync is told by the listing, so the writes made so far play no part in it.
  induction intents generalizing report r with
  | nil => simp [repair, drifted, writeAll]
  | cons i rest ih =>
      by_cases hsync : inSync listed i = true
      · rw [repair, if_pos hsync, ih, drifted_cons_of_inSync hsync]
        simp [Report.kept, Nat.add_assoc, Nat.add_comm 1]
      · rw [repair_cons_of_not_inSync hsync, Program.run_call, drifted_cons_of_not_inSync hsync]
        by_cases hfails : i.subnet ∈ r.failing
        · rw [server_upsert_failing hfails, ih]
          simp [hfails, Report.written, note, Except.isOk, Except.toBool, Nat.add_assoc,
            Nat.add_comm 1]
        · rw [server_upsert hfails, ih]
          simp [hfails, Report.written, note, Except.isOk, Except.toBool, writeAll, Nat.add_assoc,
            Nat.add_comm 1]

/-- The desired routes that a pass over a recording dataplane writes with success. -/
def repaired (r : Recording) (t : DesiredTable) : List Intent :=
  (drifted r.installed t.toList).filter (!r.failing.contains ·.subnet)

/-- The desired routes that it tries to write in vain. -/
def refused (r : Recording) (t : DesiredTable) : List Intent :=
  (drifted r.installed t.toList).filter (r.failing.contains ·.subnet)

/-- A pass lists the routes and writes what is out of sync. -/
theorem run_pass (t : DesiredTable) (r : Recording) :
    (pass .kernel t).run (server .kernel) r =
      (.ok ⟨t.toList.length, (r.repaired t).length, (r.refused t).length⟩,
        { r with
          calls := r.calls ++ .installed :: (drifted r.installed t.toList).map .upsert
          installed := writeAll .kernel (r.repaired t) r.installed }) := by
  have hlisted : (pass .kernel t).run (server .kernel) r =
      ((repair r.installed t.toList {}).bind fun report => .done (.ok report)).run
        (server .kernel) (r.note .installed) := rfl
  rw [hlisted, Program.run_bind, run_repair]
  simp [note, repaired, refused]

/-- A pass that is refused all its writes changes no route. -/
theorem run_pass_of_refused {t : DesiredTable} {r : Recording}
    (h : ∀ i ∈ drifted r.installed t.toList, r.failing.contains i.subnet = true) :
    (pass .kernel t).run (server .kernel) r =
      (.ok ⟨t.toList.length, 0, (drifted r.installed t.toList).length⟩,
        { r with
          calls := r.calls ++ .installed :: (drifted r.installed t.toList).map .upsert }) := by
  have hrepaired : r.repaired t = [] :=
    List.filter_eq_nil_iff.mpr fun i hi => by rw [h i hi]; exact Bool.false_ne_true
  have hrefused : r.refused t = drifted r.installed t.toList := List.filter_eq_self.mpr h
  rw [run_pass, hrepaired, hrefused]
  rfl

section

variable {t : DesiredTable} (ht : t.WellFormed) (r : Recording)
include ht

theorem repaired_pairwise : (r.repaired t).Pairwise fun i j => i.subnet ≠ j.subnet :=
  (ht.toList_pairwise.filter _).filter _

/-- Of the routes to a desired subnet a pass leaves the one that it writes, or all as they were. -/
theorem routesTo_writeAll_repaired {i : Intent} (hi : i ∈ t.toList) :
    routesTo (writeAll .kernel (r.repaired t) r.installed) i.subnet =
      if i ∈ r.repaired t then [routeOf i] else routesTo r.installed i.subnet := by
  split
  case isTrue hwritten => exact routesTo_writeAll_of_mem (repaired_pairwise ht r) hwritten _
  case isFalse hkept =>
    refine routesTo_writeAll_of_ne (fun j hj hsubnet => hkept ?_) _
    have hlisted : j ∈ t.toList := (List.mem_filter.mp (List.mem_filter.mp hj).1).1
    exact ht.eq_of_subnet_eq hlisted hi hsubnet ▸ hj

/-- After a pass a desired route is in sync if it was before or its writes are not refused. -/
theorem inSync_writeAll_repaired {i : Intent} (hi : i ∈ t.toList) :
    inSync (writeAll .kernel (r.repaired t) r.installed) i =
      (inSync r.installed i || !r.failing.contains i.subnet) := by
  have hroutes := routesTo_writeAll_repaired ht r hi
  by_cases hwritten : i ∈ r.repaired t
  · rw [if_pos hwritten] at hroutes
    have haccepted : (!r.failing.contains i.subnet) = true := (List.mem_filter.mp hwritten).2
    rw [inSync_of_routesTo_eq hroutes, haccepted, Bool.or_true]
  · rw [if_neg hwritten] at hroutes
    rw [inSync_congr_routesTo hroutes]
    cases hsync : inSync r.installed i with
    | true => rfl
    | false =>
        refine (Bool.eq_false_iff.mpr fun haccepted => hwritten ?_).symm
        exact List.mem_filter.mpr
          ⟨List.mem_filter.mpr ⟨hi, by rw [hsync]; rfl⟩, haccepted⟩

/-- What is out of sync after a pass was so before, and its writes are refused. -/
theorem drifted_writeAll_repaired :
    drifted (writeAll .kernel (r.repaired t) r.installed) t.toList = r.refused t := by
  rw [refused, drifted, drifted, List.filter_filter]
  refine List.filter_congr fun i hi => ?_
  rw [inSync_writeAll_repaired ht r hi, Bool.not_or, Bool.not_not, Bool.and_comm]

/-- A pass without a failure leaves to a desired subnet its own route only, if the subnet was out
of sync, and otherwise every route that it found. -/
theorem routesTo_of_refused_eq_nil (hrefused : r.refused t = []) {i : Intent}
    (hi : i ∈ t.toList) :
    routesTo (writeAll .kernel (r.repaired t) r.installed) i.subnet =
      if inSync r.installed i then routesTo r.installed i.subnet else [routeOf i] := by
  rw [routesTo_writeAll_repaired ht r hi]
  by_cases hsync : inSync r.installed i = true
  · have hkept : i ∉ r.repaired t := by simp [repaired, drifted, hsync]
    rw [if_neg hkept, if_pos hsync]
  · have hdrifted : i ∈ drifted r.installed t.toList := by simp [drifted, hi, hsync]
    have haccepted : (!r.failing.contains i.subnet) = true := by
      simpa using List.filter_eq_nil_iff.mp hrefused i hdrifted
    have hwritten : i ∈ r.repaired t := List.mem_filter.mpr ⟨hdrifted, haccepted⟩
    rw [if_pos hwritten, if_neg hsync]

/-- **What is left after a pass without failures.** If no write of a pass fails, the next hop of a
desired route is afterwards the only path of its subnet. The exception is a subnet whose last
listed route had the next hop already, behind other paths: its routes are what they were. -/
theorem livePaths_of_pass_without_failure {r' : Recording} {report : Report}
    (hpass : (pass .kernel t).run (server .kernel) r = (.ok report, r'))
    (hfailed : report.failed = 0) {subnet : Network} {nextHop : Address}
    (hget : t.get? subnet = some nextHop) :
    r'.livePaths subnet = [nextHop] ∨
      listedGateway r.installed subnet = some (some nextHop) ∧
        1 < (r.livePaths subnet).length ∧
        routesTo r'.installed subnet = routesTo r.installed subnet ∧
        (r'.livePaths subnet).getLast? = some nextHop := by
  rw [run_pass, Prod.mk.injEq] at hpass
  obtain ⟨hreport, rfl⟩ := hpass
  obtain rfl := Except.ok.inj hreport
  have hlisted : ⟨subnet, nextHop⟩ ∈ t.toList := ht.mem_toList_iff.mpr hget
  have hroutes := routesTo_of_refused_eq_nil ht r (List.eq_nil_of_length_eq_zero hfailed) hlisted
  by_cases hsync : inSync r.installed ⟨subnet, nextHop⟩ = true
  · rw [if_pos hsync] at hroutes
    have hpaths : livePathsOf (writeAll .kernel (r.repaired t) r.installed) subnet =
        livePathsOf r.installed subnet := by rw [livePathsOf_eq, hroutes, livePathsOf_eq]
    have hlast : (livePathsOf r.installed subnet).getLast? = some nextHop :=
      getLast?_livePathsOf_of_inSync hsync
    simp only [livePaths, hpaths]
    match hfound : livePathsOf r.installed subnet with
    | [] => simp [hfound] at hlast
    | [only] => exact Or.inl (by simpa [hfound] using hlast)
    | first :: second :: rest =>
        refine Or.inr ⟨beq_iff_eq.mp hsync, ?_, hroutes, ?_⟩
        · simp
        · rw [← hfound, hlast]
  · rw [if_neg hsync] at hroutes
    refine Or.inl ?_
    rw [livePaths, livePathsOf_eq, hroutes]
    rfl

end

/-- One desired route. -/
private def lone : DesiredTable :=
  ⟨[⟨.host (.ofOctets 10 1 0 7), .ofOctets 192 168 3 1⟩], []⟩

/-- The route is listed behind a stale path. -/
private def behindStale : List InstalledRoute :=
  [⟨some (.host (.ofOctets 10 1 0 7)), some (.ofOctets 192 168 3 9), some 3⟩,
    ⟨some (.host (.ofOctets 10 1 0 7)), some (.ofOctets 192 168 3 1), some 3⟩]

/-- Where the stale path is the last one listed, the pass takes both away and writes the route. -/
theorem livePaths_of_pass_without_failure_of_stale_last :
    let run := (pass .kernel lone).run (server .kernel) { installed := behindStale.reverse }
    run.1 = .ok ⟨1, 1, 0⟩ ∧
      run.2.livePaths (.host (.ofOctets 10 1 0 7)) = [.ofOctets 192 168 3 1] := by
  have hget : lone.get? (.host (.ofOctets 10 1 0 7)) = some (.ofOctets 192 168 3 1) := rfl
  have h := livePaths_of_pass_without_failure (by decide) { installed := behindStale.reverse }
    rfl rfl hget
  refine ⟨rfl, h.resolve_right ?_⟩
  rintro ⟨hlisted, -⟩
  exact absurd hlisted (by decide)

/-- Where the stale path comes first, nothing is written and it stays. -/
theorem not_only_path_of_stale_first :
    let run := (pass .kernel lone).run (server .kernel) { installed := behindStale }
    lone.WellFormed ∧ run.1 = .ok ⟨1, 0, 0⟩ ∧
      lone.get? (.host (.ofOctets 10 1 0 7)) = some (.ofOctets 192 168 3 1) ∧
      run.2.livePaths (.host (.ofOctets 10 1 0 7)) =
        [.ofOctets 192 168 3 9, .ofOctets 192 168 3 1] :=
  ⟨by decide, rfl, rfl, rfl⟩

/-- **One pass is enough.** After a pass of kernel mode exactly those desired routes are out of
sync that were before and whose writes are refused. The routes to all destinations that the pass
did not repair are what they were, in their order. A second pass checks as many routes, repairs
none, fails for those that are left, and changes nothing. -/
theorem pass_converges {t : DesiredTable} (ht : t.WellFormed) (r : Recording) :
    let first := (pass .kernel t).run (server .kernel) r
    let second := (pass .kernel t).run (server .kernel) first.2
    drifted first.2.installed t.toList =
      (drifted r.installed t.toList).filter (r.failing.contains ·.subnet) ∧
    (∀ keep : Option Network → Bool,
      (∀ i ∈ drifted r.installed t.toList, i.subnet ∉ r.failing → keep (some i.subnet) = false) →
        first.2.installed.filter (keep ·.destination) =
          r.installed.filter (keep ·.destination)) ∧
    ∃ report, first.1 = .ok report ∧
      second.1 = .ok ⟨report.checked, 0, (drifted first.2.installed t.toList).length⟩ ∧
      second.2 = { first.2 with calls := second.2.calls } := by
  intro first second
  have hfirst : first = _ := run_pass t r
  have hleft : drifted first.2.installed t.toList = r.refused t := by
    rw [hfirst]
    exact drifted_writeAll_repaired ht r
  have hrefused : ∀ i ∈ drifted first.2.installed t.toList,
      first.2.failing.contains i.subnet = true := by
    rw [hleft, hfirst]
    exact fun i hi => (List.mem_filter.mp hi).2
  have hsecond : second = _ := run_pass_of_refused hrefused
  refine ⟨hleft, fun keep hkeep => ?_, ⟨_, _, _⟩, by rw [hfirst], by rw [hsecond], by rw [hsecond]⟩
  rw [hfirst]
  refine filter_writeAll keep (fun i hi => ?_) r.installed
  obtain ⟨hdrifted, haccepted⟩ := List.mem_filter.mp hi
  exact hkeep i hdrifted (by simpa using haccepted)

/-- Three desired routes. -/
private def three : DesiredTable where
  routes := [⟨.host (.ofOctets 10 1 0 7), .ofOctets 192 168 3 1⟩,
    ⟨.host (.ofOctets 10 2 0 7), .ofOctets 192 168 3 1⟩,
    ⟨.host (.ofOctets 10 3 0 7), .ofOctets 192 168 3 5⟩]
  withdrawn := []

/-- Of the three the first is listed behind a stale path, the second is missing and refused, and
the third is listed without its gateway. -/
private def unsettled : Recording where
  installed := [⟨some (.host (.ofOctets 10 3 0 7)), none, some 4⟩,
    ⟨some (.host (.ofOctets 10 1 0 7)), some (.ofOctets 192 168 3 9), some 3⟩,
    ⟨none, some (.ofOctets 172 18 0 1), some 2⟩,
    ⟨some (.host (.ofOctets 10 1 0 7)), some (.ofOctets 192 168 3 1), some 3⟩]
  failing := [.host (.ofOctets 10 2 0 7)]

/-- The first pass over the three repairs the third and leaves the second. -/
theorem pass_converges_of_refusal :
    let first := (pass .kernel three).run (server .kernel) unsettled
    let second := (pass .kernel three).run (server .kernel) first.2
    first.1 = .ok ⟨3, 1, 1⟩ ∧
      drifted first.2.installed three.toList =
        [⟨.host (.ofOctets 10 2 0 7), .ofOctets 192 168 3 1⟩] ∧
      second.1 = .ok ⟨3, 0, 1⟩ ∧ second.2.installed = first.2.installed := by
  intro first second
  obtain ⟨hleft, -, report, hfirst, hsecond, hsame⟩ :=
    pass_converges (t := three) (by decide) unsettled
  have hreport : first.1 = .ok ⟨3, 1, 1⟩ := rfl
  obtain rfl : report = ⟨3, 1, 1⟩ := Except.ok.inj (hfirst.symm.trans hreport)
  refine ⟨hreport, ?_, ?_, ?_⟩
  · exact hleft
  · exact hsecond
  · rw [hsame]

end Recording

end RouteKeeper
