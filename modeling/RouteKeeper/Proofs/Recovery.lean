import Mathlib.Data.Finset.Card
import RouteKeeper.Proofs.Adoption
import RouteKeeper.Proofs.Session.Trace

/-!
# The effect of a recovery

A recovery lists the routes once and writes none. It leaves every recorded subnet alone, with its
mark. To each other subnet it gives the next hop of the first route that is listed for it with a
gateway, and it tells how many subnets it gave one. Done again over the same listing it changes
nothing.

## Implementation notes

Destinations count without their host bits, so routes to different destinations may be routes to
one subnet.
-/

namespace RouteKeeper.Router

/-- Whether a route offers a next hop for a subnet: it leads there and has a gateway. -/
def offers (subnet : Network) (r : InstalledRoute) : Bool :=
  r.destination.map (·.truncate) == some subnet && r.gateway.isSome

/-- The gateway of the first route to a subnet that has one. -/
def firstHop? (listed : List InstalledRoute) (subnet : Network) : Option Address :=
  (listed.find? (offers subnet)).bind (·.gateway)

/-- The subnets that a route with a gateway is listed for and that are not recorded. -/
def newSubnets (t : DesiredTable) (listed : List InstalledRoute) : Finset Network :=
  ((listed.filter (·.gateway.isSome)).filterMap fun r =>
    r.destination.map (·.truncate)).toFinset.filter (t.get? · = none)

section

variable {subnet : Network} {r : InstalledRoute} {listed : List InstalledRoute}

theorem offers_iff :
    offers subnet r = true ↔
      (∃ n, r.destination = some n ∧ n.truncate = subnet) ∧ r.gateway.isSome = true := by
  simp [offers]

/-- A next hop is found for a subnet exactly when a route offers one. -/
theorem exists_firstHop?_iff :
    (∃ hop, firstHop? listed subnet = some hop) ↔ ∃ r ∈ listed, offers subnet r = true := by
  constructor
  · rintro ⟨hop, hhop⟩
    obtain ⟨r, hfind, -⟩ := Option.bind_eq_some_iff.mp hhop
    exact ⟨r, List.mem_of_find?_eq_some hfind, List.find?_some hfind⟩
  · rintro ⟨r, hr, hoffers⟩
    obtain ⟨first, hfind⟩ := Option.isSome_iff_exists.mp (List.find?_isSome.mpr ⟨r, hr, hoffers⟩)
    obtain ⟨hop, hhop⟩ := Option.isSome_iff_exists.mp (offers_iff.mp (List.find?_some hfind)).2
    exact ⟨hop, Option.bind_eq_some_iff.mpr ⟨first, hfind, hhop⟩⟩

/-- A subnet is new when it is not recorded and a next hop is found for it. -/
theorem mem_newSubnets {t : DesiredTable} :
    subnet ∈ newSubnets t listed ↔
      t.get? subnet = none ∧ ∃ hop, firstHop? listed subnet = some hop := by
  rw [exists_firstHop?_iff, newSubnets, Finset.mem_filter, and_comm]
  simp [offers_iff, and_assoc, and_comm]

/-- The intent of a route is for a subnet exactly when the route offers a next hop for it. -/
theorem any_intentOf? : (intentOf? r).any (·.subnet == subnet) = offers subnet r := by
  obtain ⟨destination, gateway, link⟩ := r
  cases destination with
  | none => rfl
  | some n =>
      cases gateway with
      | none => simp [offers, intentOf?]
      | some hop => simp [offers, intentOf?, Intent.of]

/-- The first intent for a subnet comes from the first route that offers a next hop for it. -/
theorem find?_intents (listed : List InstalledRoute) (subnet : Network) :
    ((listed.filterMap intentOf?).find? (·.subnet == subnet)).map (·.nextHop) =
      firstHop? listed subnet := by
  simp only [List.find?_filterMap, any_intentOf?, firstHop?]
  cases hfind : listed.find? (offers subnet) with
  | none => rfl
  | some r =>
      obtain ⟨⟨n, hn, -⟩, hgateway⟩ := offers_iff.mp (List.find?_some hfind)
      obtain ⟨hop, hhop⟩ := Option.isSome_iff_exists.mp hgateway
      simp [intentOf?, hn, hhop, Intent.of]

/-- The subnets of the intents are those of the routes that offer a next hop. -/
theorem toFinset_intents (listed : List InstalledRoute) :
    ((listed.filterMap intentOf?).map (·.subnet)).toFinset =
      ((listed.filter (·.gateway.isSome)).filterMap fun r =>
        r.destination.map (·.truncate)).toFinset := by
  ext subnet
  simp only [List.mem_toFinset, List.mem_map, List.mem_filterMap, List.mem_filter,
    Option.map_eq_some_iff]
  constructor
  · rintro ⟨i, ⟨r, hr, hi⟩, rfl⟩
    obtain ⟨n, hn, hgateway, hsubnet⟩ := intentOf?_eq_some_iff.mp hi
    exact ⟨r, ⟨hr, by simp [hgateway]⟩, n, hn, hsubnet.symm⟩
  · rintro ⟨r, ⟨hr, hgateway⟩, n, hn, rfl⟩
    obtain ⟨hop, hhop⟩ := Option.isSome_iff_exists.mp hgateway
    exact ⟨⟨n.truncate, hop⟩, ⟨r, hr, intentOf?_eq_some_iff.mpr ⟨n, hn, hhop, rfl⟩⟩, rfl⟩

end

section

variable (t : DesiredTable) {intents : List Intent}

/-- Intents of recorded subnets are all passed over. -/
theorem adopt_of_known (h : ∀ i ∈ intents, (t.get? i.subnet).isSome = true) :
    adopt t intents = (0, t) := by
  induction intents with
  | nil => rfl
  | cons i rest ih =>
      obtain ⟨hi, hrest⟩ := List.forall_mem_cons.mp h
      rw [adopt_cons_of_known t i rest hi, ih hrest]

/-- After an adoption all its intents are of recorded subnets. -/
theorem adopt_adopt (intents : List Intent) :
    adopt (adopt t intents).2 intents = (0, (adopt t intents).2) := by
  refine adopt_of_known _ fun i hi => ?_
  have hfound : (intents.find? (·.subnet == i.subnet)).isSome = true :=
    List.find?_isSome.mpr ⟨i, hi, beq_self_eq_true _⟩
  rw [get?_adopt, Option.isSome_or, Option.isSome_map, hfound, Bool.or_true]

/-- The adopted intents are counted by the subnets that were not recorded. -/
theorem adopt_count (intents : List Intent) :
    (adopt t intents).1 =
      ((intents.map (·.subnet)).toFinset.filter (t.get? · = none)).card := by
  induction intents generalizing t with
  | nil => rfl
  | cons i rest ih =>
      rw [List.map_cons, List.toFinset_cons, Finset.filter_insert]
      cases hi : t.get? i.subnet with
      | some old =>
          rw [adopt_cons_of_known t i rest (by simp [hi]), ih, if_neg (Option.some_ne_none old)]
      | none =>
          -- Once it is recorded, the subnet is no longer among those of the rest.
          have hrest : (rest.map (·.subnet)).toFinset.filter ((t.record i).get? · = none) =
              ((rest.map (·.subnet)).toFinset.filter (t.get? · = none)).erase i.subnet := by
            ext subnet
            by_cases h : i.subnet = subnet
            · simp [h.symm]
            · simp [t.get?_record_of_ne i subnet h, Ne.symm h]
          rw [adopt_cons_of_unknown t i rest hi, ih, if_pos rfl, hrest,
            ← Finset.erase_insert_eq_erase, Finset.card_erase_add_one (Finset.mem_insert_self ..)]

end

section

variable (t : DesiredTable) (listed : List InstalledRoute) {subnet : Network}

/-- The table after the intents of a listing were adopted. -/
def recovered : DesiredTable :=
  (adopt t (listed.filterMap intentOf?)).2

theorem get?_recovered (subnet : Network) :
    (recovered t listed).get? subnet = (t.get? subnet).or (firstHop? listed subnet) := by
  rw [recovered, get?_adopt, find?_intents]

theorem isWithdrawn_recovered (subnet : Network) :
    (recovered t listed).isWithdrawn subnet =
      (t.isWithdrawn subnet &&
        ((t.get? subnet).isSome || (firstHop? listed subnet).isNone)) := by
  rw [recovered, isWithdrawn_adopt, ← find?_intents, Option.isNone_map]

/-- As many intents are adopted as there are new subnets. -/
theorem adopt_listed_count :
    (adopt t (listed.filterMap intentOf?)).1 = (newSubnets t listed).card := by
  rw [adopt_count, toFinset_intents, newSubnets]

/-- A recorded subnet keeps its next hop and its mark. -/
theorem recovered_of_known (h : (t.get? subnet).isSome = true) :
    (recovered t listed).get? subnet = t.get? subnet ∧
      (recovered t listed).isWithdrawn subnet = t.isWithdrawn subnet := by
  obtain ⟨old, hold⟩ := Option.isSome_iff_exists.mp h
  constructor
  · rw [get?_recovered, hold, Option.some_or]
  · rw [isWithdrawn_recovered, h, Bool.true_or, Bool.and_true]

variable {t listed}

/-- A new subnet gets the first next hop that is found for it, without a mark. -/
theorem recovered_of_new (h : subnet ∈ newSubnets t listed) :
    ∃ hop, firstHop? listed subnet = some hop ∧ (recovered t listed).get? subnet = some hop ∧
      (recovered t listed).isWithdrawn subnet = false := by
  obtain ⟨hnone, hop, hhop⟩ := mem_newSubnets.mp h
  refine ⟨hop, hhop, ?_, ?_⟩
  · rw [get?_recovered, hnone, Option.none_or, hhop]
  · simp [isWithdrawn_recovered, hnone, hhop]

/-- A subnet that is neither recorded nor new stays unrecorded. -/
theorem recovered_of_unlisted (hnone : t.get? subnet = none) (h : subnet ∉ newSubnets t listed) :
    (recovered t listed).get? subnet = none ∧
      (recovered t listed).isWithdrawn subnet = t.isWithdrawn subnet := by
  have hfirst : firstHop? listed subnet = none := by
    by_contra hfound
    obtain ⟨hop, hhop⟩ := Option.ne_none_iff_exists'.mp hfound
    exact h (mem_newSubnets.mpr ⟨hnone, hop, hhop⟩)
  constructor
  · rw [get?_recovered, hnone, hfirst, Option.none_or]
  · rw [isWithdrawn_recovered, hfirst, Option.isNone_none, Bool.or_true, Bool.and_true]

end

section

variable {σ : Type} {server : Server dataplane σ} {now : Nat} {r : Router} {s : σ}

/-- A recovery whose listing fails ends with that failure and saves nothing. -/
theorem run_recover_of_unlisted {failure : Failure} (h : (server .installed s).1 = .error failure) :
    recover.run server now r s = (.error failure, r, (server .installed s).2) := by
  simp only [recover, Task.run, h]
  rfl

/-- A recovery whose listing succeeds adopts the intents of the listing. -/
theorem run_recover_of_listed {listed : List InstalledRoute}
    (h : (server .installed s).1 = .ok listed) :
    recover.run server now r s =
      (.ok (adopt r.desired (listed.filterMap intentOf?)).1,
        { r with desired := recovered r.desired listed }, (server .installed s).2) := by
  simp only [recover, Task.run, h]
  rfl

/-- Over the same listing a recovery of what was recovered changes nothing. -/
theorem run_recover_recovered {t : DesiredTable} {listed : List InstalledRoute}
    (h : (server .installed s).1 = .ok listed) (hr : r.desired = recovered t listed) :
    recover.run server now r s = (.ok 0, r, (server .installed s).2) := by
  have hadopt : adopt r.desired (listed.filterMap intentOf?) = (0, r.desired) := by
    rw [hr]
    exact adopt_adopt t _
  rw [run_recover_of_listed h, recovered, hadopt]

/-- A recovery lists the routes and makes no other call. -/
theorem calls_recover : (recover.trace server now r s).map (·.call) = [.installed] := by
  simp only [recover, Task.trace, List.map_cons]
  cases (server .installed s).1 with
  | error failure => rfl
  | ok listed => rfl

end

/-- **The effect of a recovery.** Over any backend a recovery makes no call but a listing. If that
fails, so does the recovery, and the router is as it was. Otherwise every recorded subnet keeps its
next hop and its mark. Any other subnet gets, unmarked, the next hop of the first route listed for
it with a gateway, and stays unrecorded where there is none. The recovery tells how many subnets
were recorded, and a further one over the same listing tells none and changes nothing. -/
theorem recovery_records_first_listed {σ : Type} (server : Server dataplane σ) (now : Nat)
    (r : Router) (s : σ) :
    let result := recover.run server now r s
    let after := result.2.1
    (recover.trace server now r s).map (·.call) = [.installed] ∧
    (∀ failure, (server .installed s).1 = .error failure →
      result.1 = .error failure ∧ after = r) ∧
    ∀ listed, (server .installed s).1 = .ok listed →
      result.1 = .ok (newSubnets r.desired listed).card ∧ after.clock = r.clock ∧
      (∀ subnet, (r.desired.get? subnet).isSome = true →
        after.desired.get? subnet = r.desired.get? subnet ∧
          after.desired.isWithdrawn subnet = r.desired.isWithdrawn subnet) ∧
      (∀ subnet ∈ newSubnets r.desired listed, ∃ hop, firstHop? listed subnet = some hop ∧
        after.desired.get? subnet = some hop ∧ after.desired.isWithdrawn subnet = false) ∧
      (∀ subnet, r.desired.get? subnet = none → subnet ∉ newSubnets r.desired listed →
        after.desired.get? subnet = none ∧
          after.desired.isWithdrawn subnet = r.desired.isWithdrawn subnet) ∧
      ∀ now' s', (server .installed s').1 = .ok listed →
        recover.run server now' after s' = (.ok 0, after, (server .installed s').2) := by
  intro result after
  refine ⟨calls_recover, fun failure hfailed => ?_, fun listed hlisted => ?_⟩
  · have hrun : result = _ := run_recover_of_unlisted hfailed
    exact ⟨congrArg Prod.fst hrun, congrArg (·.2.1) hrun⟩
  · have hrun : result = _ := run_recover_of_listed hlisted
    have hcount : result.1 = .ok (newSubnets r.desired listed).card := by
      rw [hrun, adopt_listed_count]
    have hafter : after = { r with desired := recovered r.desired listed } := congrArg (·.2.1) hrun
    have hdesired : after.desired = recovered r.desired listed := by rw [hafter]
    have hclock : after.clock = r.clock := by rw [hafter]
    rw [hdesired]
    refine ⟨hcount, hclock, ?_, ?_, ?_, ?_⟩
    · intro subnet hrecorded
      exact recovered_of_known r.desired listed hrecorded
    · intro subnet hnew
      exact recovered_of_new hnew
    · intro subnet hunrecorded hold
      exact recovered_of_unlisted hunrecorded hold
    · intro now' s' hlisted'
      exact run_recover_recovered hlisted' hdesired

/-- A remote network, told by one of its hosts. -/
private def around (number host : Nat) : Network :=
  (Network.ofLength? (.ofOctets 10 number 0 host) 16).getD default

/-- One subnet is recorded, and its route is withdrawn. -/
private def oneWithdrawn : Router :=
  ⟨⟨[⟨around 1 0, .ofOctets 192 168 3 9⟩], [around 1 0]⟩, .start 60000 0⟩

/-- The recorded subnet is listed through another gateway. A second one is listed first without a
gateway and then through two, each time with other host bits. -/
private def unevenly : Recording where
  installed := [⟨some (around 1 0), some (.ofOctets 192 168 3 1), none⟩,
    ⟨none, some (.ofOctets 172 18 0 1), none⟩, ⟨some (around 2 0), none, none⟩,
    ⟨some (around 2 7), some (.ofOctets 192 168 3 1), none⟩,
    ⟨some (around 2 0), some (.ofOctets 192 168 3 5), none⟩]

/-- The withdrawn subnet stays as it is, and the second one is recorded through the first of its
two gateways. -/
theorem recovery_records_first_listed_of_host_bits :
    let result := recover.run (Recording.server .kernel) 0 oneWithdrawn unevenly
    result.1 = .ok 1 ∧
      result.2.1.desired.get? (around 1 0) = some (.ofOctets 192 168 3 9) ∧
      result.2.1.desired.isWithdrawn (around 1 0) = true ∧
      result.2.1.desired.get? (around 2 0) = some (.ofOctets 192 168 3 1) ∧
      (recover.run (Recording.server .kernel) 0 result.2.1 unevenly).1 = .ok 0 := by
  intro result
  obtain ⟨-, -, hlisted⟩ :=
    recovery_records_first_listed (Recording.server .kernel) 0 oneWithdrawn unevenly
  obtain ⟨hcount, -, hkept, hadopted, -, hagain⟩ := hlisted unevenly.installed rfl
  obtain ⟨hget, hmark⟩ := hkept (around 1 0) rfl
  have hnew : around 2 0 ∈ newSubnets oneWithdrawn.desired unevenly.installed :=
    mem_newSubnets.mpr ⟨rfl, _, rfl⟩
  obtain ⟨hop, hfirst, hrecorded, -⟩ := hadopted (around 2 0) hnew
  refine ⟨hcount.trans ?_, hget, hmark, hrecorded.trans hfirst.symm, ?_⟩
  · decide +kernel
  · rw [hagain 0 unevenly rfl]

end RouteKeeper.Router
