import RouteKeeper.Dataplane
import RouteKeeper.DesiredTable

/-!
# Reconciliation

One pass compares every desired route with what the backend lists and writes
again what is missing or points elsewhere. Only a listing that fails ends a pass
early; a write that fails is counted.
-/

namespace RouteKeeper

/-- What a pass did. -/
structure Report where
  /-- Desired routes compared with the backend. -/
  checked : Nat := 0
  /-- Routes written again. -/
  repaired : Nat := 0
  /-- Writes that failed. -/
  failed : Nat := 0
  deriving DecidableEq, Inhabited

namespace Report

/-- A clean pass found nothing to write. -/
def isClean (r : Report) : Bool :=
  r.repaired == 0 && r.failed == 0

/-- Counts a route that was in place. -/
def kept (r : Report) : Report :=
  { r with checked := r.checked + 1 }

/-- Counts a route that was written again, successfully or not. -/
def written (r : Report) (ok : Bool) : Report :=
  if ok then { r with checked := r.checked + 1, repaired := r.repaired + 1 }
  else { r with checked := r.checked + 1, failed := r.failed + 1 }

end Report

namespace Reconciliation

/-- The gateway of the last listed route with a destination, if there is such a route. -/
def listedGateway (installed : List InstalledRoute) (subnet : Network) :
    Option (Option Address) :=
  (installed.reverse.find? (·.destination == some subnet)).map (·.gateway)

/-- A desired route is in sync when the last route listed for its subnet has its next hop. -/
def inSync (installed : List InstalledRoute) (i : Intent) : Bool :=
  listedGateway installed i.subnet == some (some i.nextHop)

/-- Writes every desired route that is out of sync, in order, and counts outcomes. -/
def repair (installed : List InstalledRoute) : List Intent → Report → Program dataplane Report
  | [], report => .done report
  | i :: rest, report =>
    if inSync installed i then repair installed rest report.kept
    else .call (.upsert i) fun
      | .ok () => repair installed rest (report.written true)
      | .error _ => repair installed rest (report.written false)

/-- One pass. A backend whose drift is not looked for is left alone. -/
def pass (mode : Mode) (desired : DesiredTable) : Program dataplane (Except Failure Report) :=
  if mode.detectsDrift then
    .call .installed fun
      | .error failure => .done (.error failure)
      | .ok installed => do return .ok (← repair installed desired.toList {})
  else .done (.ok {})

end Reconciliation

end RouteKeeper
