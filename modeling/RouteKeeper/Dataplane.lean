import RouteKeeper.Intent
import RouteKeeper.Route
import RouteKeeper.Service

/-!
# The dataplane service

What every backend offers to the router: writing and deleting a route, listing
the installed routes, and listing the client connections.
-/

namespace RouteKeeper

namespace Dataplane

/-- A request to a dataplane. -/
inductive Call where
  /-- Installs a route, replacing or adding as the mode has it. -/
  | upsert (intent : Intent)
  /-- Removes a route; a backend that replaces may ignore it. -/
  | delete (intent : Intent)
  /-- Lists the installed routes. -/
  | installed
  /-- Lists the tunnels to client pods. -/
  | connections
  deriving DecidableEq

/-- What a request returns. -/
abbrev Result : Call → Type
  | .upsert _ => Unit
  | .delete _ => Unit
  | .installed => List InstalledRoute
  | .connections => List Connection

/-- The name of a request. -/
def Call.name : Call → String
  | .upsert _ => "upsert"
  | .delete _ => "delete"
  | .installed => "installed"
  | .connections => "connections"

/-- A request in full: its name and the route it is about. -/
def Call.text : Call → String
  | .upsert intent => "upsert " ++ intent.text
  | .delete intent => "delete " ++ intent.text
  | .installed => "installed"
  | .connections => "connections"

/-- Whether a request changes the backend. -/
def Call.isWrite : Call → Bool
  | .upsert _ | .delete _ => true
  | .installed | .connections => false

end Dataplane

/-- The service that a router programs. -/
abbrev dataplane : Service :=
  ⟨Dataplane.Call, Dataplane.Result, Failure⟩

/-- Wraps a failed write with the backend and the route it was about. -/
def Failure.inWrite (backend : Mode) (operation : String) (intent : Intent) (cause : Failure) :
    Failure :=
  .routeWrite backend operation intent.subnet.text intent.nextHop.text cause

end RouteKeeper
