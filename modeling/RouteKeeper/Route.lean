import RouteKeeper.Network

/-!
# Installed routes and connections

What a live backend reports: the routes it holds, and the tunnels that lead to
client pods.
-/

namespace RouteKeeper

/-- A route as observed on the backend. -/
structure InstalledRoute where
  /-- The destination; none for the default route. -/
  destination : Option Network
  /-- The gateway, if the route has one. -/
  gateway : Option Address
  /-- The index of the outgoing link, if the backend knows links. -/
  link : Option Nat
  deriving DecidableEq, Inhabited

namespace InstalledRoute

/-- Whether this is the default route. -/
def isDefault (r : InstalledRoute) : Bool :=
  r.destination.isNone

/-- Whether this is the host route to exactly the given address. -/
def isHostRouteTo (r : InstalledRoute) (x : Address) : Bool :=
  match r.destination with
  | some n => n.length == 32 && n.address == x
  | none => false

end InstalledRoute

/-- A tunnel to a client pod. -/
structure Connection where
  /-- The client pod that owns the tunnel. -/
  podName : String
  /-- The interface name reported to the control plane. -/
  interfaceName : String
  /-- The tunnel address at the client's end. -/
  clientAddress : Address
  /-- The tunnel address at the router's end. -/
  routerAddress : Address
  deriving DecidableEq, Inhabited

end RouteKeeper
