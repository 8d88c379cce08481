import RouteKeeper.Dataplane

/-!
# The recording dataplane

A dataplane held in memory that notes every call. A write replaces the routes of
its destination in kernel mode and adds one more path in VPP mode. A delete takes
away the matching paths in VPP mode and nothing in kernel mode.
-/

namespace RouteKeeper

/-- The state of a recording dataplane. -/
structure Recording where
  /-- The calls so far, oldest first. -/
  calls : List Dataplane.Call := []
  /-- The installed routes. -/
  installed : List InstalledRoute := []
  /-- The subnets whose writes fail. -/
  failing : List Network := []
  /-- The connections to report. -/
  connections : List Connection := []

namespace Recording

/-- The route that a write of an intent installs. -/
def routeOf (i : Intent) : InstalledRoute :=
  ⟨some i.subnet, some i.nextHop, none⟩

/-- The installed routes after a write. -/
def write (mode : Mode) (i : Intent) (routes : List InstalledRoute) : List InstalledRoute :=
  if mode.replacesRoutes then
    routes.filter (·.destination != some i.subnet) ++ [routeOf i]
  else routes ++ [routeOf i]

/-- The installed routes after a delete. -/
def erase (mode : Mode) (i : Intent) (routes : List InstalledRoute) : List InstalledRoute :=
  if mode.replacesRoutes then routes
  else routes.filter fun r => r.destination != some i.subnet || r.gateway != some i.nextHop

/-- The gateways installed for a subnet, in order. -/
def livePathsOf (routes : List InstalledRoute) (subnet : Network) : List Address :=
  (routes.filter (·.destination == some subnet)).filterMap (·.gateway)

/-- The gateways installed for a subnet, in order. -/
def livePaths (r : Recording) (subnet : Network) : List Address :=
  livePathsOf r.installed subnet

/-- The writes and deletes so far, oldest first. -/
def writes (r : Recording) : List Dataplane.Call :=
  r.calls.filter (·.isWrite)

/-- Notes a call. -/
def note (r : Recording) (c : Dataplane.Call) : Recording :=
  { r with calls := r.calls ++ [c] }

/-- Makes the writes of a subnet fail. -/
def failFor (r : Recording) (subnet : Network) : Recording :=
  { r with failing := subnet :: r.failing }

/-- What a write of a failing subnet fails with. -/
def refusal (mode : Mode) (i : Intent) : Failure :=
  .inWrite mode "add" i (.unreachable mode "upsert" "injected failure")

/-- Answers the calls of a dataplane of the given mode. -/
def server (mode : Mode) : Server dataplane Recording
  | .upsert i, r =>
    let r := r.note (.upsert i)
    if r.failing.contains i.subnet then (.error (refusal mode i), r)
    else (.ok (), { r with installed := write mode i r.installed })
  | .delete i, r =>
    let r := r.note (.delete i)
    (.ok (), { r with installed := erase mode i r.installed })
  | .installed, r => (.ok r.installed, r.note .installed)
  | .connections, r => (.ok r.connections, r.note .connections)

end Recording

end RouteKeeper
