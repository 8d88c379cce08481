import RouteKeeper.Double.StaticAgent
import RouteKeeper.Proofs.Adoption
import RouteKeeper.Proofs.Fulfilment
import RouteKeeper.Proofs.Notation
import RouteKeeper.Proofs.Recording
import RouteKeeper.Proofs.Session
import RouteKeeper.Vpp.Backend

/-!
# Taking back what recovery adopted

Recovery reads two of the eight fields of an agent's route, and reads the destination
leniently. A delete sends those two fields back, written in one way and with defaults in
the other six, and the agent removes what equals it. So the route that an entry was adopted
from is removed by a later injection exactly when it is the route that the sidecar would
have written itself.

## Implementation notes

Between the recovery and the injection anything may be requested that does not give the
subnet another next hop. None of it touches the agent's routes to that subnet, because a
written network is read as itself.
-/

namespace RouteKeeper.Vpp

namespace Route

/-- The intent that recovery takes a route of the agent for. -/
def intent? (r : Route) : Option Intent :=
  if r.type == RouteType.interVrf.number then (installedOf? r).bind Router.intentOf? else none

theorem intent?_eq_some_iff {r : Route} {i : Intent} :
    r.intent? = some i ↔ r.type = RouteType.interVrf.number ∧
      ∃ n, Network.parse? r.dstNetwork = some n ∧ r.nextHopAddr = i.nextHop.text ∧
        i.subnet = n.truncate := by
  unfold intent?
  by_cases htype : r.type = RouteType.interVrf.number
  · rw [if_pos (by simpa using htype)]
    simp only [Option.bind_eq_some_iff, Router.intentOf?_eq_some_iff, installedOf?,
      Option.map_eq_some_iff, htype, true_and]
    constructor
    · rintro ⟨_, ⟨n, hn, rfl⟩, _, hdestination, hgateway, hsubnet⟩
      cases hdestination
      exact ⟨n, hn, Address.parse?_eq_some_iff.mp hgateway, hsubnet.trans n.truncate_canonical⟩
    · rintro ⟨n, hn, hgateway, hsubnet⟩
      exact ⟨_, ⟨n, hn, rfl⟩, _, rfl, Address.parse?_eq_some_iff.mpr hgateway,
        hsubnet.trans n.truncate_canonical.symm⟩
  · rw [if_neg (by simpa using htype)]
    simp [htype]

/-- The written route of a canonical intent stands for the intent. -/
theorem intent?_routeFor {i : Intent} (hi : i.Canonical) : (routeFor i).intent? = some i :=
  intent?_eq_some_iff.mpr ⟨rfl, i.subnet, i.subnet.parse?_text, rfl, hi.symm⟩

/-- A route is plain for a subnet when everything that recovery does not read is as the
sidecar writes it. -/
structure Plain (r : Route) (subnet : Network) : Prop where
  dstNetwork : r.dstNetwork = subnet.text
  vrfId : r.vrfId = 0
  outgoingInterface : r.outgoingInterface = ""
  weight : r.weight = 0
  preference : r.preference = 0
  viaVrfId : r.viaVrfId = 0

/-- Of the routes that stand for an intent, the plain one is the written one. -/
theorem eq_routeFor_iff {r : Route} {i : Intent} (h : r.intent? = some i) :
    r = routeFor i ↔ r.Plain i.subnet := by
  obtain ⟨htype, -, -, hgateway, -⟩ := intent?_eq_some_iff.mp h
  constructor
  · rintro rfl
    exact ⟨rfl, rfl, rfl, rfl, rfl, rfl⟩
  · rintro ⟨hdst, hvrf, hinterface, hweight, hpreference, hvia⟩
    cases r
    simp_all [routeFor]

end Route

/-- What recovery goes through is what the agent's routes stand for. -/
theorem intents_installedIn (config : ConfigData) :
    (installedIn config).filterMap Router.intentOf? = config.routes.filterMap Route.intent? := by
  simp only [installedIn, List.filterMap_filterMap, List.filterMap_filter]
  congr 1
  funext r
  rw [Route.intent?]
  split <;> rfl

/-- A path is live for a configuration when one of its routes stands for it. -/
theorem mem_livePathsOf_installedIn {config : ConfigData} {subnet : Network} {nextHop : Address} :
    nextHop ∈ Recording.livePathsOf (installedIn config) subnet ↔
      ∃ r ∈ config.routes, r.intent? = some ⟨subnet, nextHop⟩ := by
  simp only [Recording.mem_livePathsOf, installedIn, List.mem_filterMap, List.mem_filter,
    Route.intent?_eq_some_iff, installedOf?, Option.map_eq_some_iff, beq_iff_eq]
  constructor
  · rintro ⟨_, ⟨r, ⟨hr, htype⟩, n, hn, rfl⟩, hdestination, hgateway⟩
    exact ⟨r, hr, htype, n, hn, Address.parse?_eq_some_iff.mp hgateway,
      (Option.some.inj hdestination).symm⟩
  · rintro ⟨r, hr, htype, n, hn, hgateway, hsubnet⟩
    exact ⟨_, ⟨r, ⟨hr, htype⟩, n, hn, rfl⟩, congrArg some hsubnet.symm,
      Address.parse?_eq_some_iff.mpr hgateway⟩

/-- The agent's routes that stand for an intent of a subnet. -/
def routesTo (subnet : Network) (routes : List Route) : List Route :=
  routes.filter fun r => r.intent?.any (·.subnet == subnet)

section

variable {subnet : Network} {i : Intent} {routes : List Route}

theorem mem_routesTo {r : Route} :
    r ∈ routesTo subnet routes ↔ r ∈ routes ∧ ∃ i, r.intent? = some i ∧ i.subnet = subnet := by
  cases h : r.intent? <;> simp [routesTo, h]

/-- Writing the route of another subnet adds no route to this one. -/
theorem routesTo_append (hi : i.Canonical) (hne : i.subnet ≠ subnet) :
    routesTo subnet (routes ++ [routeFor i]) = routesTo subnet routes := by
  simp [routesTo, Route.intent?_routeFor hi, hne]

/-- Deleting it takes none away. -/
theorem routesTo_filter (hi : i.Canonical) (hne : i.subnet ≠ subnet) :
    routesTo subnet (routes.filter fun r => !([routeFor i].contains r)) =
      routesTo subnet routes := by
  rw [routesTo, List.filter_filter, routesTo]
  apply List.filter_congr
  intro r _
  by_cases hr : r = routeFor i
  · simp [hr, Route.intent?_routeFor hi, hne]
  · simp [hr]

end

/-- A router over a configuration agent that holds its configuration in memory. -/
def site (interfaceName : String) : Site StaticAgent Empty :=
  ⟨.vpp, (backend interfaceName).serve StaticAgent.server, nofun⟩

section

variable (interfaceName : String) (s : Session StaticAgent) (a : StaticAgent) {i : Intent}

/-- The agent after the route of an intent was deleted. -/
def takeAway (i : Intent) (a : StaticAgent) : StaticAgent :=
  (StaticAgent.server (.delete (configFor i)) a).2

/-- The agent after the route of an intent was added. -/
def add (i : Intent) (a : StaticAgent) : StaticAgent :=
  (StaticAgent.server (.update (configFor i)) a).2

@[simp] theorem mode_site : (site interfaceName).mode = .vpp := rfl

/-- Injecting an intent is fulfilling it, with a clock that may have been set in between. -/
theorem exists_inject_eq (i : Intent) :
    ∃ clock, (site interfaceName).inject i s =
      let out := (Router.fulfil .vpp i { s.router with clock }).run (site interfaceName).server
        s.now { s.router with clock } s.backend
      (out.1, ⟨s.now, out.2.1, out.2.2⟩) := by
  obtain ⟨clock, hclock⟩ :=
    Router.run_reconcileIfDue_vpp (site interfaceName).server s.now s.router s.backend
  refine ⟨clock, ?_⟩
  rw [Site.inject, mode_site, Router.inject_eq_fulfil, Task.run, Task.run_bind, hclock]

/-- An injection of what is current does nothing to the table or the agent. -/
theorem inject_current (h : s.router.desired.isCurrent i = true) :
    ∃ clock, (site interfaceName).inject i s =
      (.ok (), ⟨s.now, { s.router with clock }, s.backend⟩) := by
  obtain ⟨clock, hinject⟩ := exists_inject_eq interfaceName s i
  refine ⟨clock, hinject.trans ?_⟩
  rw [Router.fulfil, if_pos h]
  rfl

/-- An injection in place of a live route takes that away and adds its own. -/
theorem inject_live {old : Address} (hi : i.Canonical)
    (hlive : s.router.desired.liveHop? i.subnet = some old) (hne : old ≠ i.nextHop) :
    ∃ clock, (site interfaceName).inject i s =
      (.ok (), ⟨s.now, ⟨(s.router.desired.markWithdrawn i.subnet).record i, clock⟩,
        add i (takeAway ⟨i.subnet, old⟩ s.backend)⟩) := by
  obtain ⟨clock, hinject⟩ := exists_inject_eq interfaceName s i
  obtain ⟨hget, hmark⟩ := (DesiredTable.liveHop?_eq_some_iff _ _).mp hlive
  have hcurrent : ¬s.router.desired.isCurrent i = true := by
    rw [DesiredTable.isCurrent_iff, hlive]
    exact fun h => hne (Option.some.inj h)
  have hstale : Router.stale? .vpp i { s.router with clock } = some ⟨i.subnet, old⟩ := by
    simp [Router.stale?, hget, hmark, Mode.replacesRoutes, Intent.of, hi.truncate_eq]
  refine ⟨clock, hinject.trans ?_⟩
  rw [Router.fulfil, if_neg hcurrent, hstale]
  rfl

/-- Any other injection adds its route. -/
theorem inject_free (hlive : s.router.desired.liveHop? i.subnet = none) :
    ∃ clock, (site interfaceName).inject i s =
      (.ok (), ⟨s.now, ⟨s.router.desired.record i, clock⟩, add i s.backend⟩) := by
  obtain ⟨clock, hinject⟩ := exists_inject_eq interfaceName s i
  have hcurrent : ¬s.router.desired.isCurrent i = true := by
    rw [DesiredTable.isCurrent_iff, hlive]
    simp
  have hstale : Router.stale? .vpp i { s.router with clock } = none := by
    unfold Router.stale?
    cases hget : s.router.desired.get? i.subnet with
    | none => rfl
    | some old =>
        have hmark : s.router.desired.isWithdrawn i.subnet = true := by
          simpa [DesiredTable.liveHop?, hget] using hlive
        simp [hmark]
  refine ⟨clock, hinject.trans ?_⟩
  rw [Router.fulfil, if_neg hcurrent, hstale]
  rfl

@[simp] theorem routes_add :
    (add i a).config.routes = a.config.routes ++ [routeFor i] := rfl

@[simp] theorem routes_takeAway :
    (takeAway i a).config.routes = a.config.routes.filter fun r => !([routeFor i].contains r) := rfl

end

/-- An entry of the table is live, and the agent's routes to its subnet are the given ones. -/
structure Keeps (subnet : Network) (nextHop : Address) (routes : List Route) (r : Router)
    (a : StaticAgent) : Prop where
  live : r.desired.liveHop? subnet = some nextHop
  routes : routesTo subnet a.config.routes = routes

namespace Keeps

variable {interfaceName : String} {subnet : Network} {nextHop : Address} {routes : List Route}
  {s : Session StaticAgent}

/-- What is injected for another subnet is seen neither in the entry nor in the routes. -/
theorem inject_other {i : Intent} (h : Keeps subnet nextHop routes s.router s.backend)
    (hi : i.Canonical) (hne : i.subnet ≠ subnet) :
    Keeps subnet nextHop routes ((site interfaceName).inject i s).2.router
      ((site interfaceName).inject i s).2.backend := by
  have hrecord (t : DesiredTable) : (t.record i).liveHop? subnet = t.liveHop? subnet :=
    t.liveHop?_record_of_ne i subnet hne
  have hmark (t : DesiredTable) : (t.markWithdrawn i.subnet).liveHop? subnet = t.liveHop? subnet :=
    t.liveHop?_markWithdrawn_of_ne subnet hne
  cases hlive : s.router.desired.liveHop? i.subnet with
  | none =>
      obtain ⟨clock, hinject⟩ := inject_free interfaceName s hlive
      rw [hinject]
      refine ⟨(hrecord _).trans h.live, ?_⟩
      rw [routes_add, routesTo_append hi hne, h.routes]
  | some old =>
      by_cases hold : old = i.nextHop
      · have hcurrent := (s.router.desired.isCurrent_iff i).mpr (hold ▸ hlive)
        obtain ⟨clock, hinject⟩ := inject_current interfaceName s hcurrent
        rw [hinject]
        exact ⟨h.live, h.routes⟩
      · obtain ⟨clock, hinject⟩ := inject_live interfaceName s hi hlive hold
        rw [hinject]
        refine ⟨(hrecord _).trans ((hmark _).trans h.live), ?_⟩
        rw [routes_add, routesTo_append hi hne, routes_takeAway, routesTo_filter, h.routes]
        · exact hi
        · exact hne

/-- Any request but one that gives the subnet another next hop keeps entry and routes. -/
theorem request {q : Request} (h : Keeps subnet nextHop routes s.router s.backend)
    (hq : ∀ subnetText nextHopText i, q = .inject subnetText nextHopText →
      Intent.parse subnetText nextHopText = .ok i → i.subnet = subnet → i.nextHop = nextHop) :
    Keeps subnet nextHop routes ((site interfaceName).serve q s).2.router
      ((site interfaceName).serve q s).2.backend := by
  cases q with
  | inject subnetText nextHopText =>
      cases hparse : Intent.parse subnetText nextHopText with
      | error failure =>
          simp only [Site.serve, Request.work, Router.injectRoute, hparse]
          exact ⟨h.live, h.routes⟩
      | ok i =>
          rw [Site.serve_inject hparse]
          by_cases hs : i.subnet = subnet
          · have hhop := hq subnetText nextHopText i rfl hparse hs
            have hcurrent : s.router.desired.isCurrent i = true := by
              rw [DesiredTable.isCurrent_iff, hs, hhop]
              exact h.live
            obtain ⟨clock, hinject⟩ := inject_current interfaceName s hcurrent
            rw [hinject]
            exact ⟨h.live, h.routes⟩
          · exact h.inject_other (Intent.parse_canonical hparse) hs
  | reconcile => exact ⟨h.live, h.routes⟩
  | recover => exact ⟨Router.liveHop?_adopt _ h.live _, h.routes⟩

/-- So do any events of that kind. -/
theorem run (h : Keeps subnet nextHop routes s.router s.backend)
    (events : List (Event Empty))
    (hevents : ∀ subnetText nextHopText i, .request (.inject subnetText nextHopText) ∈ events →
      Intent.parse subnetText nextHopText = .ok i → i.subnet = subnet → i.nextHop = nextHop) :
    Keeps subnet nextHop routes ((site interfaceName).run events s).router
      ((site interfaceName).run events s).backend := by
  induction events generalizing s with
  | nil => exact h
  | cons e rest ih =>
      have hrest : ∀ subnetText nextHopText i, .request (.inject subnetText nextHopText) ∈ rest →
          Intent.parse subnetText nextHopText = .ok i → i.subnet = subnet → i.nextHop = nextHop :=
        fun _ _ i hmem => hevents _ _ i (List.mem_cons_of_mem _ hmem)
      refine ih ?_ hrest
      cases e with
      | request q =>
          exact h.request fun subnetText nextHopText i hq =>
            hevents subnetText nextHopText i (hq ▸ List.mem_cons_self)
      | advance duration => exact h
      | outside e => cases e

end Keeps

/-- The session of a new router that has recovered from an agent. -/
def recovered (interfaceName : String) (interval started : Nat) (a : StaticAgent) :
    Session StaticAgent :=
  ((site interfaceName).serve .recover (.start interval started a)).2

section

variable (interfaceName : String) (interval started : Nat) (a : StaticAgent)

/-- What recovery adopts for a subnet is the first of the agent's routes to it. -/
theorem recovered_adopts {subnet : Network} {nextHop : Address}
    (h : (recovered interfaceName interval started a).router.desired.get? subnet = some nextHop) :
    ∃ route, (routesTo subnet a.config.routes).head? = some route ∧
      route.intent? = some ⟨subnet, nextHop⟩ := by
  have hadopt := (Router.get?_adopt .empty ((installedIn a.config).filterMap Router.intentOf?)
    subnet).symm.trans h
  rw [DesiredTable.get?_empty, Option.none_or, intents_installedIn, List.find?_filterMap] at hadopt
  obtain ⟨i, hi, hhop⟩ := Option.map_eq_some_iff.mp hadopt
  obtain ⟨route, hroute, hintent⟩ := Option.bind_eq_some_iff.mp hi
  have hsubnet : i.subnet = subnet := by simpa [hintent] using List.find?_some hroute
  refine ⟨route, (List.head?_filter ..).trans hroute, ?_⟩
  rw [hintent, ← hhop, ← hsubnet]

/-- An adopted entry is live, and recovery leaves the agent's routes as they are. -/
theorem recovered_keeps {subnet : Network} {nextHop : Address}
    (h : (recovered interfaceName interval started a).router.desired.get? subnet = some nextHop) :
    Keeps subnet nextHop (routesTo subnet a.config.routes)
      (recovered interfaceName interval started a).router
      (recovered interfaceName interval started a).backend := by
  refine ⟨(DesiredTable.liveHop?_eq_some_iff _ _).mpr ⟨h, ?_⟩, rfl⟩
  exact (Router.isWithdrawn_adopt _ _ _).trans (Bool.false_and _)

/-- **What is taken back.** After a recovery, an injection of another next hop succeeds and
deletes the written form of the adopted entry. The route that the entry was adopted from is
gone exactly when it is plain, and the adopted path exactly when every route on it is. -/
theorem taken_back_iff (events : List (Event Empty)) {subnetText nextHopText : String}
    {i : Intent} {old : Address} (hparse : Intent.parse subnetText nextHopText = .ok i)
    (hother : old ≠ i.nextHop)
    (hadopted : (recovered interfaceName interval started a).router.desired.get? i.subnet =
      some old)
    (hevents : ∀ subnetText nextHopText j, .request (.inject subnetText nextHopText) ∈ events →
      Intent.parse subnetText nextHopText = .ok j → j.subnet = i.subnet → j.nextHop = old) :
    let before := (site interfaceName).run events (recovered interfaceName interval started a)
    let after := (site interfaceName).serve (.inject subnetText nextHopText) before
    after.1 = .injected (.ok ()) ∧
      after.2.backend.requests = before.backend.requests ++
        [.delete (configFor ⟨i.subnet, old⟩).routes, .update (configFor i).routes] ∧
      (∃ route, (routesTo i.subnet a.config.routes).head? = some route ∧
        (route ∉ after.2.backend.config.routes ↔ route.Plain i.subnet)) ∧
      (old ∉ Recording.livePathsOf (installedIn after.2.backend.config) i.subnet ↔
        ∀ route ∈ a.config.routes, route.intent? = some ⟨i.subnet, old⟩ →
          route.Plain i.subnet) := by
  intro before after
  have hi := Intent.parse_canonical hparse
  obtain ⟨first, hfirst, hintent⟩ := recovered_adopts interfaceName interval started a hadopted
  have hkeeps : Keeps i.subnet old (routesTo i.subnet a.config.routes) before.router
      before.backend :=
    (recovered_keeps interfaceName interval started a hadopted).run events hevents
  obtain ⟨clock, hinject⟩ := inject_live interfaceName before hi hkeeps.live hother
  have hafter : after = (.injected (.ok ()), ⟨before.now, _,
      add i (takeAway ⟨i.subnet, old⟩ before.backend)⟩) :=
    (Site.serve_inject hparse before).trans (by rw [hinject])
  have hmem {route : Route} (hroute : route.intent? = some ⟨i.subnet, old⟩) :
      route ∈ after.2.backend.config.routes ↔
        route ∈ a.config.routes ∧ ¬route.Plain i.subnet := by
    have hbefore : route ∈ before.backend.config.routes ↔ route ∈ a.config.routes := by
      have hsame : route ∈ routesTo i.subnet before.backend.config.routes ↔
          route ∈ routesTo i.subnet a.config.routes := by rw [hkeeps.routes]
      simpa [mem_routesTo, hroute] using hsame
    have hnew : route ≠ routeFor i := by
      rintro rfl
      rw [Route.intent?_routeFor hi] at hroute
      exact hother (congrArg Intent.nextHop (Option.some.inj hroute)).symm
    rw [hafter]
    simp [hnew, hbefore, Route.eq_routeFor_iff hroute]
  refine ⟨by rw [hafter], ?_, ⟨first, hfirst, ?_⟩, ?_⟩
  · rw [hafter]
    simp [add, takeAway, StaticAgent.server, StaticAgent.note, StaticAgent.onRoutes]
  · have hold : first ∈ a.config.routes :=
      (mem_routesTo.mp (List.mem_of_mem_head? hfirst)).1
    simp [hmem hintent, hold]
  · rw [mem_livePathsOf_installedIn]
    constructor
    · intro hgone route hroute hold
      by_cases hplain : route.Plain i.subnet
      · exact hplain
      · exact absurd ⟨route, (hmem hold).mpr ⟨hroute, hplain⟩, hold⟩ hgone
    · rintro hplain ⟨route, hroute, hold⟩
      obtain ⟨hroute, hmarked⟩ := (hmem hold).mp hroute
      exact hmarked (hplain route hroute hold)

end

/-- An agent with one route to `10.1.0.0/16`, in some routing domain and some spelling. -/
private def leftoverAgent (vrfId : UInt32) (dstNetwork : String) : StaticAgent :=
  { config := { routes := [{ vrfId, dstNetwork, nextHopAddr := "192.168.3.1", type := 1 }] } }

/-- A route that is spelled with host bits and a leading zero is adopted and not taken back. -/
theorem taken_back_iff_of_spelling :
    let before := (site "nsm0").run [.advance 5, .request .reconcile]
      (recovered "nsm0" 60000 0 (leftoverAgent 0 "010.1.2.3/16"))
    let after := (site "nsm0").serve (.inject "10.1.0.0/16" "192.168.3.5") before
    after.1 = .injected (.ok ()) ∧
      .ofOctets 192 168 3 1 ∈ Recording.livePathsOf (installedIn after.2.backend.config)
        ⟨.ofOctets 10 1 0 0, 16, by decide⟩ := by
  intro before after
  have hparse : Intent.parse "10.1.0.0/16" "192.168.3.5" =
      .ok ⟨⟨.ofOctets 10 1 0 0, 16, by decide⟩, .ofOctets 192 168 3 5⟩ := rfl
  have hadopted : (recovered "nsm0" 60000 0 (leftoverAgent 0 "010.1.2.3/16")).router.desired.get?
      ⟨.ofOctets 10 1 0 0, 16, by decide⟩ = some (.ofOctets 192 168 3 1) := rfl
  have h := taken_back_iff "nsm0" 60000 0 (leftoverAgent 0 "010.1.2.3/16")
    [.advance 5, .request .reconcile] hparse (by decide) hadopted (by simp)
  refine ⟨h.1, Classical.byContradiction fun hgone => ?_⟩
  have hplain := h.2.2.2.mp hgone _ (List.mem_singleton.mpr rfl) rfl
  exact absurd hplain.dstNetwork (by decide +kernel)

/-- A route of another routing domain is adopted, and after the injection that should have
taken it back its path is still live beside the new one. -/
theorem not_taken_back_of_vrfId :
    let s := recovered "nsm0" 60000 0 (leftoverAgent 1 "10.1.0.0/16")
    let after := (site "nsm0").serve (.inject "10.1.0.0/16" "192.168.3.5") s
    s.router.desired.get? ⟨.ofOctets 10 1 0 0, 16, by decide⟩ = some (.ofOctets 192 168 3 1) ∧
      after.1 = .injected (.ok ()) ∧
      Recording.livePathsOf (installedIn after.2.backend.config)
        ⟨.ofOctets 10 1 0 0, 16, by decide⟩ = [.ofOctets 192 168 3 1, .ofOctets 192 168 3 5] :=
  ⟨rfl, rfl, by decide +kernel⟩

end RouteKeeper.Vpp
