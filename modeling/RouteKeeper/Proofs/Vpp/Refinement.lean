import RouteKeeper.Proofs.Lockstep
import RouteKeeper.Proofs.Vpp.TakeBack

/-!
# The VPP backend and the recording dataplane

Over a configuration agent whose routes across routing domains were all written for canonical
intents, the VPP backend does what the recording dataplane does. The agent keeps texts and
removes whole records, the recording dataplane keeps addresses and removes what has the
destination and the gateway; the two are the same because what is written of an intent is read
as the intent, and no two intents are written alike. Routes of other types and the interfaces
are left alone.
-/

namespace RouteKeeper

namespace Vpp

/-- No two intents are written alike. -/
theorem routeFor_injective {i j : Intent} (h : routeFor i = routeFor j) : i = j := by
  have hsubnet : i.subnet.text = j.subnet.text := congrArg Route.dstNetwork h
  have hhop : i.nextHop.text = j.nextHop.text := congrArg Route.nextHopAddr h
  refine Intent.eq_iff.mpr ⟨Option.some.inj ?_, Option.some.inj ?_⟩
  · rw [← Network.parse?_text, hsubnet, Network.parse?_text]
  · rw [← Address.parse?_eq_some_iff.mpr rfl, hhop, Address.parse?_eq_some_iff.mpr rfl]

/-- What is written of a canonical intent is read as the route that the intent installs. -/
theorem installedOf?_routeFor {i : Intent} (hi : i.Canonical) :
    installedOf? (routeFor i) = some (Recording.routeOf i) := by
  have hsubnet : i.subnet.truncate = i.subnet := hi
  simp [installedOf?, routeFor, Recording.routeOf, Network.parse?_text, hsubnet,
    Address.parse?_eq_some_iff.mpr rfl]

theorem filterMap_installedOf?_routeFor {intents : List Intent}
    (h : ∀ i ∈ intents, i.Canonical) :
    (intents.map routeFor).filterMap installedOf? = intents.map Recording.routeOf := by
  induction intents with
  | nil => rfl
  | cons i rest ih =>
      have ih := ih fun j hj => h j (List.mem_cons_of_mem _ hj)
      simp [installedOf?_routeFor (h i List.mem_cons_self), ih]

/-- The routes across routing domains were all written for canonical intents. -/
def Written (routes : List Route) : Prop :=
  ∀ r ∈ routes, r.type = RouteType.interVrf.number → ∃ i : Intent, i.Canonical ∧ r = routeFor i

section

variable {routes : List Route} {i : Intent}

theorem Written.append (h : Written routes) (hi : i.Canonical) :
    Written (routes ++ [routeFor i]) := by
  intro r hr htype
  rcases List.mem_append.mp hr with hr | hr
  · exact h r hr htype
  · exact ⟨i, hi, List.mem_singleton.mp hr⟩

theorem Written.filter (h : Written routes) (keep : Route → Bool) :
    Written (routes.filter keep) :=
  fun r hr htype => h r (List.mem_filter.mp hr).1 htype

/-- An added route is listed last. -/
theorem installedIn_append (interfaces : List Interface) (hi : i.Canonical) :
    installedIn ⟨interfaces, routes ++ [routeFor i]⟩ =
      installedIn ⟨interfaces, routes⟩ ++ [Recording.routeOf i] := by
  have htype : (routeFor i).type = RouteType.interVrf.number := rfl
  simp [installedIn, htype, installedOf?_routeFor hi]

/-- Of written routes, removing the record of an intent takes away what has its destination and
its gateway. -/
theorem installedIn_filter (interfaces : List Interface) (h : Written routes) :
    installedIn ⟨interfaces, routes.filter fun r => !([routeFor i].contains r)⟩ =
      Recording.erase .vpp i (installedIn ⟨interfaces, routes⟩) := by
  induction routes with
  | nil => rfl
  | cons r rest ih =>
      have ih := ih fun r hr => h r (List.mem_cons_of_mem _ hr)
      simp only [installedIn, Recording.erase, Mode.replacesRoutes] at ih ⊢
      by_cases htype : r.type = RouteType.interVrf.number
      · obtain ⟨j, hj, rfl⟩ := h r List.mem_cons_self htype
        by_cases hij : j = i
        · subst hij
          simpa [htype, installedOf?_routeFor hj, Recording.routeOf] using ih
        · have hne : routeFor j ≠ routeFor i := fun h => hij (routeFor_injective h)
          have hkept : j.subnet ≠ i.subnet ∨ j.nextHop ≠ i.nextHop :=
            Decidable.not_and_iff_not_or_not.mp (mt Intent.eq_iff.mpr hij)
          simpa [htype, hne, installedOf?_routeFor hj, Recording.routeOf, List.filter_cons,
            hkept] using ih
      · have hne : r ≠ routeFor i := by
          rintro rfl
          exact htype rfl
        simpa [htype, hne] using ih

end

/-- The part of a configuration that the backend never touches: the interfaces, and the routes
of other types. -/
def untouched (config : ConfigData) : ConfigData :=
  { config with routes := config.routes.filter (·.type != RouteType.interVrf.number) }

/-- An agent mirrors a recording dataplane: its routes across routing domains are written ones
and are read as the installed routes, and the rest of its configuration is the given one. -/
structure Mirrors (rest : ConfigData) (a : StaticAgent) (r : Recording) : Prop where
  written : Written a.config.routes
  installed : installedIn a.config = r.installed
  untouched : untouched a.config = rest

section

variable {rest : ConfigData} {a : StaticAgent} {r r' : Recording} {i : Intent}

/-- Adding a route is a write. -/
theorem Mirrors.add (h : Mirrors rest a r) (hi : i.Canonical)
    (hwrite : r'.installed = Recording.write .vpp i r.installed) :
    Mirrors rest (add i a) r' where
  written := h.written.append hi
  installed := by
    rw [hwrite, ← h.installed]
    exact installedIn_append a.config.interfaces hi
  untouched := by
    have htype : (routeFor i).type = RouteType.interVrf.number := rfl
    rw [← h.untouched]
    simp [Vpp.untouched, Vpp.add, StaticAgent.server, StaticAgent.onRoutes, StaticAgent.note,
      configFor, htype]

/-- Taking a route away is a delete. -/
theorem Mirrors.takeAway (h : Mirrors rest a r)
    (herase : r'.installed = Recording.erase .vpp i r.installed) :
    Mirrors rest (takeAway i a) r' where
  written := h.written.filter _
  installed := by
    rw [herase, ← h.installed]
    exact installedIn_filter a.config.interfaces h.written
  untouched := by
    rw [← h.untouched]
    refine congrArg (ConfigData.mk a.config.interfaces) ?_
    rw [routes_takeAway, List.filter_filter]
    refine List.filter_congr fun route _ => ?_
    by_cases hroute : route = routeFor i
    · subst hroute
      rfl
    · simp [hroute]

/-- A call that leaves the configuration and the routes alone leaves the mirror alone. -/
theorem Mirrors.congr {a' : StaticAgent} (h : Mirrors rest a r) (hconfig : a'.config = a.config)
    (hsame : r'.installed = r.installed) : Mirrors rest a' r' where
  written := hconfig ▸ h.written
  installed := by rw [hconfig, hsame, h.installed]
  untouched := by rw [hconfig, h.untouched]

end

section

variable {σ : Type} (interfaceName : String) (server : Server agent σ) (i : Intent) (s : σ)

/-- A write is the agent's update, its failure wrapped. -/
theorem serve_upsert : (backend interfaceName).serve server (.upsert i) s =
    ((server (.update (configFor i)) s).1.mapError (.inWrite .vpp "add" i),
      (server (.update (configFor i)) s).2) := by
  simp only [Adapter.serve, backend, upsert, Program.run]
  cases (server (.update (configFor i)) s).1 <;> rfl

/-- A delete is the agent's delete, its failure wrapped. -/
theorem serve_delete : (backend interfaceName).serve server (.delete i) s =
    ((server (.delete (configFor i)) s).1.mapError (.inWrite .vpp "delete" i),
      (server (.delete (configFor i)) s).2) := by
  simp only [Adapter.serve, backend, delete, Program.run]
  cases (server (.delete (configFor i)) s).1 <;> rfl

/-- A listing is read off the agent's configuration. -/
theorem serve_installed : (backend interfaceName).serve server .installed s =
    ((server .get s).1.map installedIn, (server .get s).2) := by
  simp only [Adapter.serve, backend, fetch, Program.run]
  cases (server .get s).1 <;> rfl

end

/-- The backend over a guarded agent follows the recording dataplane behind any guard. -/
theorem backend_follows {γ δ : Type} (interfaceName : String)
    (agentGuard : Agent.Call → γ → Option Failure × γ)
    (guard : Dataplane.Call → δ → Option Failure × δ) (rest : ConfigData) :
    Site.Follows (fun s t => Mirrors rest s.2 t.2)
      (.closed .vpp ((backend interfaceName).serve (Server.guarded agentGuard StaticAgent.server)))
      (.closed .vpp (Server.guarded guard (Recording.server .vpp))) where
  mode := rfl
  change := nofun
  server := by
    have hconforms := (Dataplane.recording_conforms .vpp).guarded guard
    rintro c s t hc h hok
    simp only [Site.closed] at hok ⊢
    cases c with
    | upsert i =>
        rw [serve_upsert] at hok ⊢
        rcases Server.guarded_cases agentGuard StaticAgent.server (.update (configFor i)) s with
          ⟨fault, g, hserved⟩ | ⟨g, hserved⟩
        · rw [hserved] at hok ⊢
          obtain ⟨failure, hanswer, hroutes⟩ := (hconforms.upsert i t).of_failed hok.symm
          rw [hanswer]
          exact ⟨rfl, h.congr rfl hroutes⟩
        · rw [hserved] at hok ⊢
          obtain ⟨hanswer, hroutes⟩ := (hconforms.upsert i t).of_ok hok.symm
          rw [hanswer]
          exact ⟨rfl, h.add hc hroutes⟩
    | delete i =>
        rw [serve_delete] at hok ⊢
        rcases Server.guarded_cases agentGuard StaticAgent.server (.delete (configFor i)) s with
          ⟨fault, g, hserved⟩ | ⟨g, hserved⟩
        · rw [hserved] at hok ⊢
          obtain ⟨failure, hanswer, hroutes⟩ := (hconforms.delete i t).of_failed hok.symm
          rw [hanswer]
          exact ⟨rfl, h.congr rfl hroutes⟩
        · rw [hserved] at hok ⊢
          obtain ⟨hanswer, hroutes⟩ := (hconforms.delete i t).of_ok hok.symm
          rw [hanswer]
          exact ⟨rfl, h.takeAway hroutes⟩
    | installed =>
        rw [serve_installed] at hok ⊢
        rcases Server.guarded_cases agentGuard StaticAgent.server .get s with
          ⟨fault, g, hserved⟩ | ⟨g, hserved⟩
        · rw [hserved] at hok ⊢
          obtain ⟨failure, hanswer, hroutes⟩ := (hconforms.installed t).of_failed hok.symm
          rw [hanswer]
          exact ⟨rfl, h.congr rfl hroutes⟩
        · rw [hserved] at hok ⊢
          obtain ⟨hanswer, hroutes⟩ := (hconforms.installed t).of_ok hok.symm
          rw [hanswer]
          refine ⟨?_, h.congr rfl hroutes⟩
          exact congrArg (fun routes => some (InstalledRoute.told routes)) h.installed
    | connections => cases hc

/-- An agent that holds written routes mirrors a recording dataplane that has their intents
installed. -/
theorem mirrors_of_intents {a : StaticAgent} {intents : List Intent}
    (hcanonical : ∀ i ∈ intents, i.Canonical)
    (hroutes : a.config.routes.filter (·.type == RouteType.interVrf.number) =
      intents.map routeFor) (r : Recording) :
    Mirrors (untouched a.config) a { r with installed := intents.map Recording.routeOf } where
  written route hroute htype := by
    have hmem : route ∈ intents.map routeFor := by
      rw [← hroutes]
      exact List.mem_filter.mpr ⟨hroute, by simpa using htype⟩
    obtain ⟨i, hi, rfl⟩ := List.mem_map.mp hmem
    exact ⟨i, hcanonical i hi, rfl⟩
  installed := by
    rw [installedIn, hroutes, filterMap_installedOf?_routeFor hcanonical]
  untouched := rfl

/-- **The VPP backend refines the recording dataplane.** Let an agent hold the written routes of
some canonical intents, among routes of other types, and let a recording dataplane have the
intents installed. If the agent fails the requests that stand for the calls which the recording
dataplane fails, then after each event the two routers are equal, the agent's routes are read
as the installed routes in their order, the rest of its configuration is what it was, the calls
so far are the same, and the outcomes of the next request agree. -/
theorem agent_refines_recording {γ δ : Type} (interfaceName : String)
    (agentGuard : Agent.Call → γ → Option Failure × γ)
    (guard : Dataplane.Call → δ → Option Failure × δ) (g : γ) (d : δ) (a : StaticAgent)
    (r : Recording) {intents : List Intent} (hcanonical : ∀ i ∈ intents, i.Canonical)
    (hroutes : a.config.routes.filter (·.type == RouteType.interVrf.number) =
      intents.map routeFor) (interval started : Nat) (events : List (Event Empty)) :
    let x := Site.closed .vpp
      ((backend interfaceName).serve (Server.guarded agentGuard StaticAgent.server))
    let y := Site.closed .vpp (Server.guarded guard (Recording.server .vpp))
    let s := Session.start interval started (g, a)
    let t := Session.start interval started
      (d, { r with installed := intents.map Recording.routeOf })
    FailTogether (x.trace events s) (y.trace events t) →
      ∀ before after, events = before ++ after →
        (x.run before s).router = (y.run before t).router ∧
        installedIn (x.run before s).backend.2.config = (y.run before t).backend.2.installed ∧
        untouched (x.run before s).backend.2.config = untouched a.config ∧
        (x.trace before s).map (·.call) = (y.trace before t).map (·.call) ∧
        ∀ q rest, after = .request q :: rest →
          Outcome.Agree (x.serve q (x.run before s)).1 (y.serve q (y.run before t)).1 := by
  intro x y s t hfail before after hsplit
  have hstart : Session.InStep (fun s t => Mirrors (untouched a.config) s.2 t.2) s t :=
    ⟨rfl, rfl, mirrors_of_intents hcanonical hroutes r⟩
  obtain ⟨hstep, hcalls, houtcome⟩ :=
    (backend_follows interfaceName agentGuard guard _).lockstep hstart hsplit hfail
  exact ⟨hstep.router, hstep.backend.installed, hstep.backend.untouched, hcalls, houtcome⟩

/-- A written intent. -/
private def furnishedIntent : Intent :=
  ⟨.host (.ofOctets 10 1 0 7), .ofOctets 192 168 3 1⟩

/-- An agent with an interface, a route that drops traffic, and the route of the intent. -/
private def furnishedAgent : StaticAgent where
  config :=
    { interfaces := [{ name := "tun0", ipAddresses := ["10.60.0.2/30"] }]
      routes := [{ dstNetwork := "10.1.0.0/16", type := RouteType.drop.number },
        { dstNetwork := "10.1.0.7/32", nextHopAddr := "192.168.3.1", type := 1 }] }

/-- Why the replacement fails. -/
private def lost : Failure :=
  .unreachable .vpp "update" "connection lost"

/-- Asks for another next hop than that of the written intent. -/
private def otherHop : Event Empty :=
  .request (.inject "10.1.0.7/32" "192.168.3.5")

/-- The written route is recovered. Its replacement fails after the delete, and the second
attempt makes up for it. -/
theorem agent_refines_recording_of_refusal :
    let script := [false, false, true]
    let x := Site.closed .vpp
      ((backend "nsm0").serve (Server.guarded (Server.scripted lost) StaticAgent.server))
    let y := Site.closed .vpp (Server.guarded (Server.scripted lost) (Recording.server .vpp))
    let s := Session.start 60000 0 (script, furnishedAgent)
    let t := Session.start 60000 0
      (script, { ({} : Recording) with installed := [furnishedIntent].map Recording.routeOf })
    let events := [.request .recover, otherHop, otherHop]
    installedIn (x.run [.request .recover, otherHop] s).backend.2.config = [] ∧
      (x.run events s).router = (y.run events t).router ∧
      installedIn (x.run events s).backend.2.config = (y.run events t).backend.2.installed := by
  have hcanonical : ∀ i ∈ [furnishedIntent], i.Canonical := by decide
  have hroutes : furnishedAgent.config.routes.filter (·.type == RouteType.interVrf.number) =
      [furnishedIntent].map routeFor := by decide +kernel
  have h := agent_refines_recording "nsm0" (Server.scripted (S := agent) lost)
    (Server.scripted (S := dataplane) lost) [false, false, true] [false, false, true]
    furnishedAgent {} hcanonical hroutes 60000 0 _ (by decide +kernel)
    [.request .recover, otherHop, otherHop] [] rfl
  exact ⟨by decide +kernel, h.1, h.2.1⟩

end Vpp

end RouteKeeper
