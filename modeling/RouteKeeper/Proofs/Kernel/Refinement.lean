import RouteKeeper.Double.StaticTable
import RouteKeeper.Kernel.Backend
import RouteKeeper.Proofs.Lockstep
import RouteKeeper.Proofs.Recording

/-!
# The kernel backend and the recording dataplane

Over a routing table in memory, the kernel backend does what the recording dataplane of kernel
mode does with the same routes without their links. The backend looks links up in the table
that it writes. A write may take away the host route that a link is found through, but only by
putting another host route with a link in its place, so a link once found is found for ever.
-/

namespace RouteKeeper

namespace InstalledRoute

/-- A route without its link. -/
def unlinked (r : InstalledRoute) : InstalledRoute :=
  { r with link := none }

/-- The host route to an address is the one whose destination is the network of that host. -/
theorem isHostRouteTo_eq (r : InstalledRoute) (x : Address) :
    r.isHostRouteTo x = (r.destination == some (.host x)) := by
  obtain ⟨destination, gateway, link⟩ := r
  cases destination with
  | none => rfl
  | some n =>
      obtain ⟨address, length, hlength⟩ := n
      rw [Bool.eq_iff_iff]
      simp [isHostRouteTo, Network.host, and_comm]

/-- A router is told neither of links nor of default routes. -/
theorem told_unlinked (routes : List InstalledRoute) :
    told (routes.map unlinked) = told (routes.filter (!·.isDefault)) := by
  rw [told, told, List.filterMap_map, List.filterMap_filter]
  congr 1
  funext r
  obtain ⟨destination, gateway, link⟩ := r
  cases destination <;> rfl

end InstalledRoute

namespace Kernel

open InstalledRoute

/-- Without links, a write of the table is a write of kernel mode. -/
theorem map_unlinked_write (i : Intent) (link : Nat) (routes : List InstalledRoute) :
    (StaticTable.write (specFor i link) routes).map unlinked =
      Recording.write .kernel i (routes.map unlinked) := by
  simp [StaticTable.write, Recording.write, Mode.replacesRoutes, List.filter_map, specFor,
    RouteSpec.installed, Recording.routeOf, unlinked, Function.comp_def]

/-- After a write a host is found through the written route if that is its host route, and as
before if not. -/
theorem linkTo?_write (spec : RouteSpec) (routes : List InstalledRoute) (x : Address) :
    linkTo? (StaticTable.write spec routes) x =
      if spec.destination = .host x then some spec.link else linkTo? routes x := by
  simp only [linkTo?, StaticTable.write, isHostRouteTo_eq, List.find?_append]
  -- All host routes to an address have one destination, so a write replaces all or none of them.
  split
  case isTrue h =>
    have hgone : (routes.filter (·.destination != some spec.destination)).find?
        (·.destination == some (.host x)) = none := by
      refine List.find?_eq_none.mpr fun r hr => ?_
      simpa [h] using (List.mem_filter.mp hr).2
    rw [hgone]
    simp [RouteSpec.installed, h]
  case isFalse h =>
    have hkept : (routes.filter (·.destination != some spec.destination)).find?
        (·.destination == some (.host x)) = routes.find? (·.destination == some (.host x)) := by
      rw [List.find?_filter]
      congr 1
      funext r
      by_cases hr : r.destination = some (.host x)
      · simp [hr, Ne.symm h]
      · simp [hr]
    rw [hkept]
    simp [RouteSpec.installed, h]

/-- A host that is found is found after any write. -/
theorem linkTo?_isSome_write {routes : List InstalledRoute} {x : Address}
    (h : (linkTo? routes x).isSome) (spec : RouteSpec) :
    (linkTo? (StaticTable.write spec routes) x).isSome := by
  rw [linkTo?_write]
  split
  · rfl
  · exact h

/-- So it is found after any call of the table. -/
theorem table_keeps_linkTo? (x : Address) :
    StaticTable.server.Keeps fun t => (linkTo? t.routes x).isSome := by
  intro c t h
  cases c with
  | replace spec => exact linkTo?_isSome_write h spec
  | routes | links | addresses link => exact h

section

variable {γ : Type} (naming : Naming) (guard : Table.Call → γ → Option Failure × γ)

/-- A write over a guarded table fails and leaves the table alone, or writes the route over the
link that the next hop is found on. -/
theorem serve_upsert_cases (i : Intent) (s : γ × StaticTable) :
    (∃ failure g, (backend naming).serve (Server.guarded guard StaticTable.server) (.upsert i) s =
      (.error failure, (g, s.2))) ∨
    ∃ link g, linkTo? s.2.routes i.nextHop = some link ∧
      (backend naming).serve (Server.guarded guard StaticTable.server) (.upsert i) s =
        (.ok (), (g, (StaticTable.server (.replace (specFor i link)) s.2).2)) := by
  simp only [Adapter.serve, backend, upsert, Program.run_call]
  rcases Server.guarded_cases guard StaticTable.server .routes s with
    ⟨fault, g, hroutes⟩ | ⟨g, hroutes⟩
  · rw [hroutes]
    exact Or.inl ⟨_, g, rfl⟩
  · simp only [hroutes, StaticTable.server]
    cases hlink : linkTo? s.2.routes i.nextHop with
    | none => exact Or.inl ⟨_, g, rfl⟩
    | some link =>
        rcases Server.guarded_cases guard StaticTable.server (.replace (specFor i link)) (g, s.2)
          with ⟨fault, g', hreplace⟩ | ⟨g', hreplace⟩
        · refine Or.inl ⟨inReplace i fault, g', ?_⟩
          simp only [Program.run_call, hreplace]
          rfl
        · refine Or.inr ⟨link, g', rfl, ?_⟩
          simp only [Program.run_call, hreplace]
          rfl

/-- A listing is the table's without the default routes, or a failure of the table. -/
theorem serve_installed {σ : Type} (server : Server tables σ) (s : σ) :
    (backend naming).serve server .installed s =
      ((server .routes s).1.map (·.filter (!·.isDefault)), (server .routes s).2) := by
  simp only [Adapter.serve, backend, installed, Program.run_call]
  cases (server .routes s).1 <;> rfl

/-- The backend over a guarded table follows the recording dataplane behind any guard. -/
theorem backend_follows {δ : Type} (recordingGuard : Dataplane.Call → δ → Option Failure × δ) :
    Site.Follows (fun s t => t.2.installed = s.2.routes.map unlinked)
      (.closed .kernel ((backend naming).serve (Server.guarded guard StaticTable.server)))
      (.closed .kernel (Server.guarded recordingGuard (Recording.server .kernel))) where
  mode := rfl
  change := nofun
  server := by
    have hconforms := (Dataplane.recording_conforms .kernel).guarded recordingGuard
    rintro c s t hc h hok
    simp only [Site.closed] at hok ⊢
    cases c with
    | upsert i =>
        rcases serve_upsert_cases naming guard i s with
          ⟨fault, g, hserved⟩ | ⟨link, g, -, hserved⟩
        · rw [hserved] at hok ⊢
          obtain ⟨failure, hanswer, hroutes⟩ := (hconforms.upsert i t).of_failed hok.symm
          rw [hanswer]
          exact ⟨rfl, hroutes.trans h⟩
        · rw [hserved] at hok ⊢
          obtain ⟨hanswer, hroutes⟩ := (hconforms.upsert i t).of_ok hok.symm
          rw [hanswer]
          refine ⟨rfl, hroutes.trans ?_⟩
          rw [h]
          exact (map_unlinked_write i link s.2.routes).symm
    | delete i =>
        obtain ⟨hanswer, hroutes⟩ := (hconforms.delete i t).of_ok hok.symm
        exact ⟨congrArg Except.toOption hanswer.symm, hroutes.trans h⟩
    | installed =>
        rw [serve_installed] at hok ⊢
        rcases Server.guarded_cases guard StaticTable.server .routes s with
          ⟨fault, g, hserved⟩ | ⟨g, hserved⟩
        · rw [hserved] at hok ⊢
          obtain ⟨failure, hanswer, hroutes⟩ := (hconforms.installed t).of_failed hok.symm
          rw [hanswer]
          exact ⟨rfl, hroutes.trans h⟩
        · rw [hserved] at hok ⊢
          obtain ⟨hanswer, hroutes⟩ := (hconforms.installed t).of_ok hok.symm
          rw [hanswer]
          refine ⟨?_, hroutes.trans h⟩
          rw [h]
          exact congrArg some (told_unlinked s.2.routes).symm
    | connections => cases hc

/-- **The kernel backend refines the recording dataplane.** Let a recording dataplane of kernel
mode start with the routes of a table, their links erased. If it fails the calls which the
backend fails, for want of a link or because the table does, then after each event the two
routers are equal, the table's routes without links are the installed routes in their order, the
calls so far are the same, and the outcomes of the next request agree. And whether or not the
calls fail together, a next hop whose link is found after some of the events is found after all
of them. -/
theorem table_refines_recording {δ : Type}
    (recordingGuard : Dataplane.Call → δ → Option Failure × δ) (g : γ) (d : δ)
    (table : StaticTable) (r : Recording) (interval started : Nat)
    (events : List (Event Empty)) :
    let x := Site.closed .kernel
      ((backend naming).serve (Server.guarded guard StaticTable.server))
    let y := Site.closed .kernel (Server.guarded recordingGuard (Recording.server .kernel))
    let s := Session.start interval started (g, table)
    let t := Session.start interval started
      (d, { r with installed := table.routes.map unlinked })
    (FailTogether (x.trace events s) (y.trace events t) →
      ∀ before after, events = before ++ after →
        (x.run before s).router = (y.run before t).router ∧
        (x.run before s).backend.2.routes.map unlinked =
          (y.run before t).backend.2.installed ∧
        (x.trace before s).map (·.call) = (y.trace before t).map (·.call) ∧
        ∀ q rest, after = .request q :: rest →
          Outcome.Agree (x.serve q (x.run before s)).1 (y.serve q (y.run before t)).1) ∧
    ∀ before after nextHop, events = before ++ after →
      (linkTo? (x.run before s).backend.2.routes nextHop).isSome →
        (linkTo? (x.run events s).backend.2.routes nextHop).isSome := by
  intro x y s t
  refine ⟨fun hfail before after hsplit => ?_, fun before after nextHop hsplit hfound => ?_⟩
  · have hstart : Session.InStep (fun s t => t.2.installed = s.2.routes.map unlinked) s t :=
      ⟨rfl, rfl, rfl⟩
    obtain ⟨hstep, hcalls, houtcome⟩ :=
      (backend_follows naming guard recordingGuard).lockstep hstart hsplit hfail
    exact ⟨hstep.router, hstep.backend.symm, hcalls, houtcome⟩
  · have hkeeps : x.server.Keeps fun s => (linkTo? s.2.routes nextHop).isSome :=
      ((table_keeps_linkTo? nextHop).guarded guard).serve (backend naming)
    rw [hsplit, Site.run_append]
    exact Site.run_keeps hkeeps nofun after hfound

end

/-- A table with a default route and a tunnel to one client. -/
private def oneTunnel : StaticTable where
  routes := [⟨none, some (.ofOctets 172 18 0 1), some 2⟩,
    ⟨some (.host (.ofOctets 192 168 3 1)), none, some 7⟩]

/-- Asks for a route through the client, for one through a host without a link, for a host route
to that host through the client, and for the second route again. -/
private def throughHost : List (Event Empty) :=
  [("10.1.0.0/16", "192.168.3.1"), ("10.2.0.0/16", "192.168.3.9"),
    ("192.168.3.9/32", "192.168.3.1"), ("10.2.0.0/16", "192.168.3.9")].map
      fun (subnet, nextHop) => .request (.inject subnet nextHop)

/-- The recording dataplane fails where the link is missing, which is at the second write of
four. What the third write puts in the table gives the fourth its link. -/
theorem table_refines_recording_of_missing_link :
    let naming : Naming := ⟨"nsm", "nsm0"⟩
    let failure : Failure := .linkNotFound "10.2.0.0/16" "192.168.3.9"
    let x := Site.closed .kernel ((backend naming).serve
      (Server.guarded (Server.scripted failure) StaticTable.server))
    let y := Site.closed .kernel
      (Server.guarded (Server.scripted failure) (Recording.server .kernel))
    let s := Session.start 60000 0 ([], oneTunnel)
    let t := Session.start 60000 0
      ([false, true], { ({} : Recording) with installed := oneTunnel.routes.map unlinked })
    (x.trace throughHost s).map (·.ok) = [true, false, true, true] ∧
      (x.run throughHost s).router = (y.run throughHost t).router ∧
      (x.run throughHost s).backend.2.routes.map unlinked =
        (y.run throughHost t).backend.2.installed ∧
      (linkTo? (x.run throughHost s).backend.2.routes (.ofOctets 192 168 3 1)).isSome := by
  have h := table_refines_recording ⟨"nsm", "nsm0"⟩
    (Server.scripted (S := tables) (.linkNotFound "10.2.0.0/16" "192.168.3.9"))
    (Server.scripted (S := dataplane) (.linkNotFound "10.2.0.0/16" "192.168.3.9"))
    [] [false, true] oneTunnel {} 60000 0 throughHost
  have hrefines := h.1 (by decide +kernel) throughHost [] (List.append_nil _).symm
  have hfound := h.2 [] throughHost (.ofOctets 192 168 3 1) rfl rfl
  exact ⟨by decide +kernel, hrefines.1, hrefines.2.1, hfound⟩

end Kernel

end RouteKeeper
