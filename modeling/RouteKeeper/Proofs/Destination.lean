import RouteKeeper.Proofs.Recording
import RouteKeeper.Reconciliation

/-!
# Routes by destination

A write or a delete touches the routes to its own subnet only, and all others stay in their
order. In kernel mode a write leaves a single route to its subnet. A pass compares a desired
route with the last one listed for its subnet, so it goes by the routes to that subnet alone.

## Implementation notes

What is left alone is stated with a choice of destinations that leaves out the written ones. So
the same equation speaks of one destination, of the default route, and of the order of routes
to different destinations.
-/

namespace RouteKeeper

namespace Recording

/-- The installed routes to a subnet, in order. -/
def routesTo (routes : List InstalledRoute) (subnet : Network) : List InstalledRoute :=
  routes.filter (·.destination == some subnet)

/-- The paths of a subnet are the gateways of the routes to it. -/
theorem livePathsOf_eq (routes : List InstalledRoute) (subnet : Network) :
    livePathsOf routes subnet = (routesTo routes subnet).filterMap (·.gateway) := rfl

variable {mode : Mode} {i : Intent} (keep : Option Network → Bool)

/-- A write leaves the routes to other destinations in their order. -/
theorem filter_write (h : keep (some i.subnet) = false) (routes : List InstalledRoute) :
    (write mode i routes).filter (keep ·.destination) = routes.filter (keep ·.destination) := by
  have hnew : [routeOf i].filter (keep ·.destination) = [] := by simp [routeOf, h]
  cases mode with
  | vpp => simp [write, Mode.replacesRoutes, hnew]
  | kernel =>
      have hkept : ∀ r ∈ routes,
          (keep r.destination && r.destination != some i.subnet) = keep r.destination := by
        intro r _
        by_cases hr : r.destination = some i.subnet
        · simp [hr, h]
        · simp [hr]
      simp only [write, Mode.replacesRoutes, if_true, List.filter_append, hnew, List.append_nil,
        List.filter_filter]
      exact List.filter_congr hkept

/-- So does a delete. -/
theorem filter_erase (h : keep (some i.subnet) = false) (routes : List InstalledRoute) :
    (erase mode i routes).filter (keep ·.destination) = routes.filter (keep ·.destination) := by
  cases mode with
  | kernel => rfl
  | vpp =>
      simp only [erase, Mode.replacesRoutes, Bool.false_eq_true, if_false, List.filter_filter]
      refine List.filter_congr fun r _ => ?_
      by_cases hr : r.destination = some i.subnet
      · simp [hr, h]
      · simp [hr]

/-- In kernel mode a write leaves its own route as the only one to its subnet. -/
@[simp] theorem routesTo_write_self (i : Intent) (routes : List InstalledRoute) :
    routesTo (write .kernel i routes) i.subnet = [routeOf i] := by
  have hgone : routesTo (routes.filter (·.destination != some i.subnet)) i.subnet = [] := by
    simp [routesTo, List.filter_filter]
  have hsplit : routesTo (write .kernel i routes) i.subnet =
      routesTo (routes.filter (·.destination != some i.subnet)) i.subnet ++
        routesTo [routeOf i] i.subnet := List.filter_append ..
  rw [hsplit, hgone]
  simp [routesTo, routeOf]

theorem routesTo_write_of_ne {subnet : Network} (h : i.subnet ≠ subnet)
    (routes : List InstalledRoute) :
    routesTo (write mode i routes) subnet = routesTo routes subnet :=
  filter_write (· == some subnet) (by simp [h]) routes

theorem routesTo_erase_of_ne {subnet : Network} (h : i.subnet ≠ subnet)
    (routes : List InstalledRoute) :
    routesTo (erase mode i routes) subnet = routesTo routes subnet :=
  filter_erase (· == some subnet) (by simp [h]) routes

/-- What a write makes of the routes to its subnet depends on these alone. -/
theorem routesTo_write (i : Intent) (routes : List InstalledRoute) :
    routesTo (write mode i routes) i.subnet = write mode i (routesTo routes i.subnet) := by
  have hnew : [routeOf i].filter (·.destination == some i.subnet) = [routeOf i] := by
    simp [routeOf]
  cases mode with
  | vpp => simp [routesTo, write, Mode.replacesRoutes, hnew]
  | kernel =>
      simp only [routesTo, write, Mode.replacesRoutes, if_true, List.filter_append, hnew,
        List.filter_filter, Bool.and_comm]

/-- So it is with a delete. -/
theorem routesTo_erase (i : Intent) (routes : List InstalledRoute) :
    routesTo (erase mode i routes) i.subnet = erase mode i (routesTo routes i.subnet) := by
  cases mode with
  | kernel => rfl
  | vpp =>
      simp only [routesTo, erase, Mode.replacesRoutes, Bool.false_eq_true, if_false,
        List.filter_filter, Bool.and_comm]

/-- The installed routes after writes of some intents, one after the other. -/
def writeAll (mode : Mode) (intents : List Intent) (routes : List InstalledRoute) :
    List InstalledRoute :=
  intents.foldl (fun routes i => write mode i routes) routes

/-- Writes leave the routes to other destinations in their order. -/
theorem filter_writeAll {intents : List Intent} (h : ∀ i ∈ intents, keep (some i.subnet) = false)
    (routes : List InstalledRoute) :
    (writeAll mode intents routes).filter (keep ·.destination) =
      routes.filter (keep ·.destination) := by
  induction intents generalizing routes with
  | nil => rfl
  | cons i rest ih =>
      obtain ⟨hi, hrest⟩ := List.forall_mem_cons.mp h
      calc (writeAll mode (i :: rest) routes).filter (keep ·.destination)
          = (write mode i routes).filter (keep ·.destination) := ih hrest _
        _ = routes.filter (keep ·.destination) := filter_write keep hi routes

theorem routesTo_writeAll_of_ne {intents : List Intent} {subnet : Network}
    (h : ∀ i ∈ intents, i.subnet ≠ subnet) (routes : List InstalledRoute) :
    routesTo (writeAll mode intents routes) subnet = routesTo routes subnet :=
  filter_writeAll (· == some subnet) (fun i hi => by simp [h i hi]) routes

/-- In kernel mode each of several writes to distinct subnets leaves its own route only. -/
theorem routesTo_writeAll_of_mem {intents : List Intent}
    (hdistinct : intents.Pairwise fun i j => i.subnet ≠ j.subnet) (hi : i ∈ intents)
    (routes : List InstalledRoute) :
    routesTo (writeAll .kernel intents routes) i.subnet = [routeOf i] := by
  induction intents generalizing routes with
  | nil => cases hi
  | cons j rest ih =>
      obtain ⟨hfirst, hrest⟩ := List.pairwise_cons.mp hdistinct
      rcases List.mem_cons.mp hi with rfl | hi
      · have hlater : ∀ k ∈ rest, k.subnet ≠ i.subnet := fun k hk => Ne.symm (hfirst k hk)
        exact (routesTo_writeAll_of_ne hlater _).trans (routesTo_write_self i routes)
      · exact ih hrest hi _

end Recording

namespace Reconciliation

open Recording

/-- What a pass compares with is the last of the routes to the subnet. -/
theorem listedGateway_eq_getLast? (routes : List InstalledRoute) (subnet : Network) :
    listedGateway routes subnet = (routesTo routes subnet).getLast?.map (·.gateway) := by
  rw [listedGateway, routesTo, ← List.head?_filter, List.filter_reverse, List.head?_reverse]

theorem inSync_iff {routes : List InstalledRoute} {i : Intent} :
    inSync routes i = true ↔
      (routesTo routes i.subnet).getLast?.map (·.gateway) = some (some i.nextHop) := by
  rw [inSync, listedGateway_eq_getLast?, beq_iff_eq]

/-- Routes to one subnet decide whether its desired route is in sync. -/
theorem inSync_congr_routesTo {routes routes' : List InstalledRoute} {i : Intent}
    (h : routesTo routes i.subnet = routesTo routes' i.subnet) :
    inSync routes i = inSync routes' i := by
  rw [inSync, inSync, listedGateway_eq_getLast?, listedGateway_eq_getLast?, h]

/-- A desired route whose own route is the only one to its subnet is in sync. -/
theorem inSync_of_routesTo_eq {routes : List InstalledRoute} {i : Intent}
    (h : routesTo routes i.subnet = [routeOf i]) : inSync routes i = true :=
  inSync_iff.mpr (by rw [h]; rfl)

/-- The paths of a subnet end with the next hop of a desired route that is in sync. -/
theorem getLast?_livePathsOf_of_inSync {routes : List InstalledRoute} {i : Intent}
    (h : inSync routes i = true) :
    (livePathsOf routes i.subnet).getLast? = some i.nextHop := by
  obtain ⟨route, hlast, hgateway⟩ := Option.map_eq_some_iff.mp (inSync_iff.mp h)
  obtain ⟨before, hsplit⟩ := List.getLast?_eq_some_iff.mp hlast
  rw [livePathsOf_eq, hsplit, List.filterMap_append]
  simp [hgateway]

end Reconciliation

end RouteKeeper
