import RouteKeeper.Proofs.Kernel.Discovery
import RouteKeeper.Proofs.Task.Trace

/-!
# What discovery reports

The kernel backend reports a connection for a tunnel link that has exactly one address and that a
listed route with a destination leads out on. The client's end is the destination of the last host
route on the link, and without one that of the last route with a destination. A link whose
addresses cannot be told, or that has none or several, is passed over and the others are reported.

## Implementation notes

The tables may answer in any way and change with every call. What is reported of a link depends on
the listed routes and on the answer to its own look-up, and on nothing that is answered for others.
-/

namespace RouteKeeper.Kernel

/-- A route with a destination leads out on a link. -/
def LeadsOutOn (link : Nat) (r : InstalledRoute) : Prop :=
  r.link = some link ∧ ∃ n, r.destination = some n

/-- A route to a single host leads out on a link. -/
def IsHostOn (link : Nat) (r : InstalledRoute) : Prop :=
  r.link = some link ∧ ∃ n, r.destination = some n ∧ n.length = 32

/-- A route is the last of the listed ones with a property. -/
def LastListed (p : InstalledRoute → Prop) (routes : List InstalledRoute) (r : InstalledRoute) :
    Prop :=
  ∃ before after, routes = before ++ r :: after ∧ p r ∧ ∀ later ∈ after, ¬p later

/-- A route is the last host route on a link, or the last route on a link without host routes. -/
def LeadsToClient (routes : List InstalledRoute) (link : Nat) (r : InstalledRoute) : Prop :=
  LastListed (IsHostOn link) routes r ∨
    (∀ other ∈ routes, ¬IsHostOn link other) ∧ LastListed (LeadsOutOn link) routes r

/-- A connection is what is reported of a link, given what is answered for its addresses. -/
structure IsRecordOf (interfaceName : String) (routes : List InstalledRoute) (link : Link)
    (answer : Except Failure (List Address)) (c : Connection) : Prop where
  podName : c.podName = link.aliasName.getD link.name
  interfaceName : c.interfaceName = interfaceName
  clientAddress : ∃ r n, LeadsToClient routes link.index r ∧ r.destination = some n ∧
    c.clientAddress = n.address
  routerAddress : answer = .ok [c.routerAddress]

variable {routes : List InstalledRoute} {link : Nat}

/-- The last entry that routes tell of is told by the last route that tells of one. -/
theorem getLast?_filterMap_eq_some_iff {β : Type} {f : InstalledRoute → Option β}
    {p : InstalledRoute → Prop} (hp : ∀ r, p r ↔ (f r).isSome = true) {b : β} :
    (routes.filterMap f).getLast? = some b ↔ ∃ r, LastListed p routes r ∧ f r = some b := by
  have hnone (r : InstalledRoute) : f r = none ↔ ¬p r := by rw [hp]; simp
  rw [List.getLast?_filterMap, List.findSome?_eq_some_iff]
  constructor
  · rintro ⟨after, r, before, hsplit, hr, hafter⟩
    refine ⟨r, ⟨before.reverse, after.reverse, ?_, (hp r).mpr (by simp [hr]), ?_⟩, hr⟩
    · simpa using congrArg List.reverse hsplit
    · exact fun later hlater => (hnone later).mp (hafter later (List.mem_reverse.mp hlater))
  · rintro ⟨r, ⟨before, after, rfl, -, hafter⟩, hr⟩
    refine ⟨after.reverse, r, before.reverse, by simp, hr, fun later hlater => ?_⟩
    exact (hnone later).mpr (hafter later (List.mem_reverse.mp hlater))

/-- The client address that a route tells of the link. -/
def toldOn? (link : Nat) (r : InstalledRoute) : Option ClientAddress :=
  (clientAddress? r).filter (·.link == link)

theorem toldOn?_eq_some_iff {r : InstalledRoute} {c : ClientAddress} :
    toldOn? link r = some c ↔ r.link = some link ∧ c.link = link ∧
      ∃ n, r.destination = some n ∧ n.address = c.address ∧ (n.length == 32) = c.isHost := by
  rw [toldOn?, Option.filter_eq_some_iff, clientAddress?_eq_some_iff, beq_iff_eq]
  constructor
  · rintro ⟨⟨n, hdestination, hlink, hrest⟩, rfl⟩
    exact ⟨hlink, rfl, n, hdestination, hrest⟩
  · rintro ⟨hlink, rfl, n, hdestination, hrest⟩
    exact ⟨⟨n, hdestination, hlink, hrest⟩, rfl⟩

theorem leadsOutOn_iff (r : InstalledRoute) :
    LeadsOutOn link r ↔ (toldOn? link r).isSome = true := by
  rw [Option.isSome_iff_exists]
  constructor
  · rintro ⟨hlink, n, hn⟩
    exact ⟨⟨link, n.address, n.length == 32⟩,
      toldOn?_eq_some_iff.mpr ⟨hlink, rfl, n, hn, rfl, rfl⟩⟩
  · rintro ⟨c, hc⟩
    obtain ⟨hlink, -, n, hn, -⟩ := toldOn?_eq_some_iff.mp hc
    exact ⟨hlink, n, hn⟩

/-- What is told is a host exactly when the route is a host route. -/
theorem isHost_iff_of_toldOn? {r : InstalledRoute} {c : ClientAddress}
    (h : toldOn? link r = some c) : c.isHost = true ↔ IsHostOn link r := by
  obtain ⟨hlink, -, n, hn, -, hhost⟩ := toldOn?_eq_some_iff.mp h
  rw [← hhost, beq_iff_eq]
  constructor
  · exact fun hlength => ⟨hlink, n, hn, hlength⟩
  · rintro ⟨-, m, hm, hlength⟩
    obtain rfl : n = m := Option.some.inj (hn.symm.trans hm)
    exact hlength

theorem filter_toldOn?_eq_some_iff {r : InstalledRoute} {c : ClientAddress} :
    (toldOn? link r).filter (·.isHost) = some c ↔ IsHostOn link r ∧ toldOn? link r = some c := by
  rw [Option.filter_eq_some_iff, and_comm]
  exact and_congr_left isHost_iff_of_toldOn?

theorem isHostOn_iff (r : InstalledRoute) :
    IsHostOn link r ↔ ((toldOn? link r).filter (·.isHost)).isSome = true := by
  simp only [Option.isSome_iff_exists, filter_toldOn?_eq_some_iff, exists_and_left]
  refine ⟨fun h => ⟨h, ?_⟩, And.left⟩
  obtain ⟨hlink, n, hn, -⟩ := h
  exact Option.isSome_iff_exists.mp ((leadsOutOn_iff r).mp ⟨hlink, n, hn⟩)

instance (r : InstalledRoute) : Decidable (LeadsOutOn link r) :=
  decidable_of_iff _ (leadsOutOn_iff r).symm

instance (r : InstalledRoute) : Decidable (IsHostOn link r) :=
  decidable_of_iff _ (isHostOn_iff r).symm

/-- Where no host route leads out on a link, none is told of. -/
theorem getLast?_hosts_eq_none_iff :
    (routes.filterMap fun r => (toldOn? link r).filter (·.isHost)).getLast? = none ↔
      ∀ r ∈ routes, ¬IsHostOn link r := by
  simp only [List.getLast?_eq_none_iff, List.filterMap_eq_nil_iff, isHostOn_iff,
    Option.not_isSome_iff_eq_none]

/-- What is found for a link is told by the route that leads to the client. -/
theorem clientOf?_eq_some_iff_toldOn? {x : Address} :
    clientOf? routes link = some x ↔
      ∃ r c, LeadsToClient routes link r ∧ toldOn? link r = some c ∧ c.address = x := by
  have hall : addressesOn routes link = routes.filterMap (toldOn? link) := List.filter_filterMap
  have hhosts : (addressesOn routes link).filter (·.isHost) =
      routes.filterMap fun r => (toldOn? link r).filter (·.isHost) := by
    rw [hall, List.filter_filterMap]
  rw [clientOf?_eq, hhosts, hall, Option.map_eq_some_iff]
  simp only [Option.or_eq_some_iff, getLast?_hosts_eq_none_iff,
    getLast?_filterMap_eq_some_iff isHostOn_iff, getLast?_filterMap_eq_some_iff leadsOutOn_iff,
    filter_toldOn?_eq_some_iff]
  constructor
  · rintro ⟨c, ⟨r, hlast, -, hr⟩ | ⟨hnone, r, hlast, hr⟩, hx⟩
    · exact ⟨r, c, Or.inl hlast, hr, hx⟩
    · exact ⟨r, c, Or.inr ⟨hnone, hlast⟩, hr, hx⟩
  · rintro ⟨r, c, hlast | ⟨hnone, hlast⟩, hr, hx⟩
    · obtain ⟨-, -, -, hhost, -⟩ := id hlast
      exact ⟨c, Or.inl ⟨r, hlast, hhost, hr⟩, hx⟩
    · exact ⟨c, Or.inr ⟨hnone, r, hlast, hr⟩, hx⟩

theorem LeadsToClient.mem {r : InstalledRoute} (h : LeadsToClient routes link r) : r ∈ routes := by
  rcases h with ⟨before, after, rfl, -⟩ | ⟨-, before, after, rfl, -⟩
  · simp
  · simp

/-- The route that leads to the client leads out on the link. -/
theorem LeadsToClient.leadsOutOn {r : InstalledRoute} (h : LeadsToClient routes link r) :
    LeadsOutOn link r := by
  rcases h with ⟨-, -, -, ⟨hlink, n, hn, -⟩, -⟩ | ⟨-, -, -, -, hout, -⟩
  · exact ⟨hlink, n, hn⟩
  · exact hout

/-- What is found for a link is the destination of the route that leads to the client. -/
theorem clientOf?_eq_some_iff {x : Address} :
    clientOf? routes link = some x ↔
      ∃ r n, LeadsToClient routes link r ∧ r.destination = some n ∧ x = n.address := by
  rw [clientOf?_eq_some_iff_toldOn?]
  constructor
  · rintro ⟨r, c, hclient, hr, rfl⟩
    obtain ⟨-, -, n, hn, haddress, -⟩ := toldOn?_eq_some_iff.mp hr
    exact ⟨r, n, hclient, hn, haddress.symm⟩
  · rintro ⟨r, n, hclient, hn, rfl⟩
    have hr : toldOn? link r = some ⟨link, n.address, n.length == 32⟩ :=
      toldOn?_eq_some_iff.mpr ⟨hclient.leadsOutOn.1, rfl, n, hn, rfl, rfl⟩
    exact ⟨r, _, hclient, hr, rfl⟩

/-- No client address is found for a link exactly when no route with a destination leads out on
it. -/
theorem clientOf?_eq_none_iff :
    clientOf? routes link = none ↔ ∀ r ∈ routes, ¬LeadsOutOn link r := by
  have hempty : clientOf? routes link = none ↔ addressesOn routes link = [] := by
    rw [clientOf?_eq, Option.map_eq_none_iff, Option.or_eq_none_iff, List.getLast?_eq_none_iff,
      List.getLast?_eq_none_iff]
    exact ⟨And.right, fun h => ⟨by rw [h]; rfl, h⟩⟩
  have hall : addressesOn routes link = routes.filterMap (toldOn? link) := List.filter_filterMap
  simp only [hempty, hall, List.filterMap_eq_nil_iff, leadsOutOn_iff, Option.not_isSome_iff_eq_none]

section

variable {interfaceName : String} {l : Link} {answer : Except Failure (List Address)}

/-- The connection that is found for a link is its record. -/
theorem connectionOf?_eq_some_iff_isRecordOf {c : Connection} :
    connectionOf? interfaceName routes l answer = some c ↔
      IsRecordOf interfaceName routes l answer c := by
  rw [connectionOf?_eq_some_iff]
  constructor
  · rintro ⟨own, client, hanswer, hclient, rfl⟩
    exact ⟨rfl, rfl, clientOf?_eq_some_iff.mp hclient, hanswer⟩
  · rintro ⟨hpod, hinterface, hclient, hanswer⟩
    refine ⟨_, _, hanswer, clientOf?_eq_some_iff.mpr hclient, ?_⟩
    rw [← hpod, ← hinterface]

/-- A link has a record exactly when it has one address and a route with a destination. -/
theorem exists_connectionOf?_iff :
    (∃ c, connectionOf? interfaceName routes l answer = some c) ↔
      (∃ own, answer = .ok [own]) ∧ ∃ r ∈ routes, LeadsOutOn l.index r := by
  simp only [connectionOf?_eq_some_iff]
  constructor
  · rintro ⟨c, own, client, hanswer, hclient, -⟩
    obtain ⟨r, -, hr, -⟩ := clientOf?_eq_some_iff.mp hclient
    exact ⟨⟨own, hanswer⟩, r, hr.mem, hr.leadsOutOn⟩
  · rintro ⟨⟨own, hanswer⟩, r, hr, hout⟩
    cases hclient : clientOf? routes l.index with
    | none => exact absurd hout (clientOf?_eq_none_iff.mp hclient r hr)
    | some client => exact ⟨_, own, client, hanswer, rfl, rfl⟩

end

section

variable {σ : Type} {naming : Naming} {server : Server tables σ} {s : σ}

/-- Where the links and the routes are listed, the tunnels are reported by their answers. -/
theorem run_connections_of_listed {links : List Link} (hlinks : (server .links s).1 = .ok links)
    (hroutes : (server .routes (server .links s).2).1 = .ok routes) :
    ((connections naming).run server s).1 =
      .ok ((answersFor server (links.filter naming.isTunnel)
        (server .routes (server .links s).2).2).filterMap fun a =>
          connectionOf? naming.interfaceName routes a.1 a.2) := by
  rw [connections, Program.run_call, hlinks, Program.run_call, hroutes]
  refine (congrArg Prod.fst (Program.run_bind ..)).trans ?_
  rw [run_connectionsOn]
  rfl

/-- Discovery fails where the links or the routes are not listed, and nowhere else. -/
theorem run_connections_eq_error_iff {failure : Failure} :
    ((connections naming).run server s).1 = .error failure ↔
      (server .links s).1 = .error failure ∨
        (∃ links, (server .links s).1 = .ok links) ∧
          (server .routes (server .links s).2).1 = .error failure := by
  cases hlinks : (server .links s).1 with
  | error cause =>
      rw [connections, Program.run_call, hlinks]
      simp
  | ok links =>
      cases hroutes : (server .routes (server .links s).2).1 with
      | error cause =>
          rw [connections, Program.run_call, hlinks, Program.run_call, hroutes]
          simp
      | ok routes =>
          rw [run_connections_of_listed hlinks hroutes]
          simp

end

/-- **What discovery reports.** Whatever the tables answer, discovery fails exactly when the links
cannot be listed or the routes cannot, and with that failure. Otherwise it reports, in link order,
the one record of each tunnel link whose own look-up answers with exactly one address and that a
listed route with a destination leads out on, and nothing for any other link. The record of a link
depends on the listed routes and on the answer to its own look-up alone. -/
theorem connections_recorded {σ : Type} (naming : Naming) (server : Server tables σ) (s : σ) :
    let listed := server .links s
    let told := server .routes listed.2
    let result := ((backend naming).serve server .connections s).1
    (∀ failure, result = .error failure ↔
      listed.1 = .error failure ∨ (∃ links, listed.1 = .ok links) ∧ told.1 = .error failure) ∧
    ∀ links routes, listed.1 = .ok links → told.1 = .ok routes →
      let tunnels := links.filter naming.isTunnel
      ∃ record? : Link → Except Failure (List Address) → Option Connection,
        (∀ link answer c, record? link answer = some c ↔
          IsRecordOf naming.interfaceName routes link answer c) ∧
        (∀ link answer, (∃ c, record? link answer = some c) ↔
          (∃ own, answer = .ok [own]) ∧ ∃ r ∈ routes, LeadsOutOn link.index r) ∧
        result = .ok ((answersFor server tunnels told.2).filterMap fun a => record? a.1 a.2) ∧
        ((∀ index, (server (.addresses index) told.2).2 = told.2) →
          result = .ok (tunnels.filterMap fun link =>
            record? link (server (.addresses link.index) told.2).1)) := by
  intro listed told result
  refine ⟨fun failure => run_connections_eq_error_iff, fun links routes hlinks hroutes => ?_⟩
  have hreported : result = _ := run_connections_of_listed hlinks hroutes
  refine ⟨connectionOf? naming.interfaceName routes,
    fun _ _ _ => connectionOf?_eq_some_iff_isRecordOf, fun _ _ => exists_connectionOf?_iff,
    hreported, fun hstill => ?_⟩
  rw [hreported, answersFor_of_still hstill, List.filterMap_map]
  rfl

/-- A host of the tunnel networks. -/
private def tunnelHost (last : Nat) : Address :=
  .ofOctets 192 168 3 last

/-- A route without a gateway to a tunnel network. -/
private def tunnelRoute (last length link : Nat) : InstalledRoute :=
  ⟨Network.ofLength? (tunnelHost last) length, none, some link⟩

/-- Five tunnels and one link that is none. The second tunnel has two addresses, and no route leads
out on the fourth. The first has network routes only, the last a network route after two host
routes. -/
private def fiveTunnels : StaticTable :=
  let t : StaticTable := { routes := [⟨none, some (.ofOctets 172 17 0 1), some 1⟩,
    tunnelRoute 9 32 14, tunnelRoute 0 30 10, tunnelRoute 5 32 11, tunnelRoute 17 32 14,
    tunnelRoute 4 30 10, tunnelRoute 16 30 14, tunnelRoute 13 32 12] }
  ((((((t.withLink ⟨1, "eth0", none⟩ [.ofOctets 172 17 0 4]).withLink
    ⟨10, "vl3-a1", some "iperf-client-0"⟩ [tunnelHost 2]).withLink
    ⟨11, "vl3-b2", some "iperf-client-1"⟩ [tunnelHost 6, .ofOctets 192 168 9 6]).withLink
    ⟨12, "vl3-c3", some "iperf-client-2"⟩ [tunnelHost 14]).withLink
    ⟨13, "vl3-d4", none⟩ [tunnelHost 10]).withLink
    ⟨14, "vl3-e5", none⟩ [tunnelHost 18])

/-- The look-up of the third tunnel fails. The first and the last are reported all the same. -/
theorem connections_recorded_of_mixed :
    let failure : tables.Fault := .netlink "address dump" "timed out"
    let server := Server.guarded (Server.scripted failure) StaticTable.server
    let s := ([false, false, false, false, true], fiveTunnels)
    (server .links s).1 = .ok fiveTunnels.links ∧
      (server .routes (server .links s).2).1 = .ok fiveTunnels.routes ∧
      ((backend ⟨"vl3-", "nsm0"⟩).serve server .connections s).1 =
        .ok [⟨"iperf-client-0", "nsm0", tunnelHost 4, tunnelHost 2⟩,
          ⟨"vl3-e5", "nsm0", tunnelHost 17, tunnelHost 18⟩] := by
  intro failure server s
  refine ⟨rfl, rfl, ?_⟩
  obtain ⟨-, hreported⟩ := connections_recorded ⟨"vl3-", "nsm0"⟩ server s
  obtain ⟨record?, hrecord, hexists, hresult, -⟩ :=
    hreported fiveTunnels.links fiveTunnels.routes rfl rfl
  have hanswers : answersFor server (fiveTunnels.links.filter (Naming.isTunnel ⟨"vl3-", "nsm0"⟩))
      (server .routes (server .links s).2).2 =
      [(⟨10, "vl3-a1", some "iperf-client-0"⟩, .ok [tunnelHost 2]),
        (⟨11, "vl3-b2", some "iperf-client-1"⟩, .ok [tunnelHost 6, .ofOctets 192 168 9 6]),
        (⟨12, "vl3-c3", some "iperf-client-2"⟩, .error failure),
        (⟨13, "vl3-d4", none⟩, .ok [tunnelHost 10]),
        (⟨14, "vl3-e5", none⟩, .ok [tunnelHost 18])] := rfl
  have hpassed (link : Link) (answer : Except Failure (List Address))
      (h : ¬((∃ own, answer = .ok [own]) ∧ ∃ r ∈ fiveTunnels.routes, LeadsOutOn link.index r)) :
      record? link answer = none :=
    Option.eq_none_iff_forall_ne_some.mpr fun c hc => h ((hexists link answer).mp ⟨c, hc⟩)
  have hfirst := (hrecord ⟨10, "vl3-a1", some "iperf-client-0"⟩ (.ok [tunnelHost 2])
    ⟨"iperf-client-0", "nsm0", tunnelHost 4, tunnelHost 2⟩).mpr
    ⟨rfl, rfl, ⟨tunnelRoute 4 30 10, _,
      Or.inr ⟨by decide, fiveTunnels.routes.take 5, _, rfl, by decide, by decide⟩, rfl, rfl⟩, rfl⟩
  have hlast := (hrecord ⟨14, "vl3-e5", none⟩ (.ok [tunnelHost 18])
    ⟨"vl3-e5", "nsm0", tunnelHost 17, tunnelHost 18⟩).mpr
    ⟨rfl, rfl, ⟨tunnelRoute 17 32 14, _,
      Or.inl ⟨fiveTunnels.routes.take 4, _, rfl, by decide, by decide⟩, rfl, rfl⟩, rfl⟩
  have htwo := hpassed ⟨11, "vl3-b2", some "iperf-client-1"⟩
    (.ok [tunnelHost 6, .ofOctets 192 168 9 6]) (by rintro ⟨⟨own, hown⟩, -⟩; cases hown)
  have hfailed := hpassed ⟨12, "vl3-c3", some "iperf-client-2"⟩ (.error failure)
    (by rintro ⟨⟨own, hown⟩, -⟩; cases hown)
  have hstranded := hpassed ⟨13, "vl3-d4", none⟩ (.ok [tunnelHost 10])
    (fun h => absurd h.2 (by decide))
  rw [hresult, hanswers]
  simp only [List.filterMap_cons, hfirst, htwo, hfailed, hstranded, hlast, List.filterMap_nil]

end RouteKeeper.Kernel
