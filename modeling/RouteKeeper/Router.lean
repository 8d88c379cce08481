import RouteKeeper.Clock
import RouteKeeper.Reconciliation
import RouteKeeper.Task

/-!
# The router

The router makes intents true on one dataplane. Its desired routes and its
reconciliation clock are behind a single lock. An injection holds that lock from
the look at the clock to the recorded result, so injections are serialised and the
table only ever holds what the backend accepted.
-/

namespace RouteKeeper

/-- What the router's lock guards. -/
structure Router where
  /-- The desired routes. -/
  desired : DesiredTable
  /-- When a pass last ran. -/
  clock : Clock
  deriving DecidableEq

namespace Router

/-- A router with no desired routes whose clock starts now. -/
def start (interval now : Nat) : Router :=
  ⟨.empty, .start interval now⟩

instance : Inhabited Router := ⟨start 0 0⟩

/-- A piece of work of the router. -/
abbrev Work (α : Type) : Type :=
  Task dataplane Router α

/-- Runs a pass if one is due and marks the clock, whatever the pass comes to. -/
def reconcileIfDue (mode : Mode) (now : Nat) (r : Router) : Work Router :=
  if r.clock.isDue now then do
    let _ ← Task.ofProgram (Reconciliation.pass mode r.desired)
    let r := { r with clock := r.clock.mark now }
    Task.put r
    return r
  else return r

/-- Deletes the recorded route of a subnet from a backend that would otherwise keep it beside
the new one, and marks it withdrawn. A withdrawn route is not deleted again. -/
def clearTheWay (mode : Mode) (intent : Intent) (r : Router) : Work (Except Failure Router) :=
  match r.desired.get? intent.subnet with
  | none => return .ok r
  | some old =>
    if mode.replacesRoutes || r.desired.isWithdrawn intent.subnet then return .ok r
    else .call (.delete (.of intent.subnet old)) fun
      | .error failure => return .error failure
      | .ok () => do
        let r := { r with desired := r.desired.markWithdrawn intent.subnet }
        Task.put r
        return .ok r

/-- Writes the intent and records it once the backend accepted it. -/
def writeAndRecord (intent : Intent) (r : Router) : Work (Except Failure Unit) :=
  .call (.upsert intent) fun
    | .error failure => return .error failure
    | .ok () => do
      Task.put { r with desired := r.desired.record intent }
      return .ok ()

/-- Makes an intent the route of its subnet. A due pass runs first; an intent that is
current already needs no write. -/
def inject (mode : Mode) (intent : Intent) : Work (Except Failure Unit) := do
  let (now, r) ← Task.lock
  let r ← reconcileIfDue mode now r
  if r.desired.isCurrent intent then return .ok ()
  match ← clearTheWay mode intent r with
  | .error failure => return .error failure
  | .ok r => writeAndRecord intent r

/-- Reads an intent and injects it. Malformed texts reach neither lock nor backend. -/
def injectRoute (mode : Mode) (subnetText nextHopText : String) : Work (Except Failure Unit) :=
  match Intent.parse subnetText nextHopText with
  | .error failure => return .error failure
  | .ok intent => inject mode intent

/-- Runs a pass now and restarts the clock. -/
def reconcileNow (mode : Mode) : Work (Except Failure Report) := do
  let (now, r) ← Task.lock
  let result ← Task.ofProgram (Reconciliation.pass mode r.desired)
  Task.put { r with clock := r.clock.mark now }
  return result

/-- The intent that an installed route stands for, if it has a destination and a gateway. -/
def intentOf? (route : InstalledRoute) : Option Intent := do
  return .of (← route.destination) (← route.gateway)

/-- Records each intent whose subnet is not known yet, and counts them. -/
def adopt (t : DesiredTable) : List Intent → Nat × DesiredTable
  | [] => (0, t)
  | i :: rest =>
    match t.compareAndSet i none with
    | (true, t) =>
      let (adopted, t) := adopt t rest
      (adopted + 1, t)
    | (false, t) => adopt t rest

/-- Seeds the desired routes from what is installed and tells how many were adopted. The
listing is taken before the lock. Of several routes to a subnet the first is adopted. -/
def recover : Work (Except Failure Nat) :=
  .call .installed fun
    | .error failure => return .error failure
    | .ok installed => do
      let (_, r) ← Task.lock
      let (adopted, desired) := adopt r.desired (installed.filterMap intentOf?)
      Task.put { r with desired }
      return .ok adopted

/-- Lists the tunnels to client pods. -/
def connections : Work (Except Failure (List Connection)) :=
  .call .connections .done

end Router

end RouteKeeper
