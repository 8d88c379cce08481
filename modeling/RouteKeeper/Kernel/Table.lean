import RouteKeeper.Failure
import RouteKeeper.Route
import RouteKeeper.Service

/-!
# The kernel's tables

The service that the kernel backend works on: the main IPv4 routing table, the
network links and the addresses of each link.
-/

namespace RouteKeeper.Kernel

/-- A network link. -/
structure Link where
  /-- The link's index. -/
  index : Nat
  /-- The link's name. -/
  name : String
  /-- The link's alias; a tunnel link carries the name of the client pod here. -/
  aliasName : Option String
  deriving DecidableEq, Inhabited

/-- A route to write with replacement. -/
structure RouteSpec where
  /-- The outgoing link. -/
  link : Nat
  /-- The destination. -/
  destination : Network
  /-- The gateway. -/
  gateway : Address
  /-- Whether the gateway counts as reachable on the link. -/
  onLink : Bool
  deriving DecidableEq

/-- The route that a written specification leaves in the table. -/
def RouteSpec.installed (s : RouteSpec) : InstalledRoute :=
  ⟨some s.destination, some s.gateway, some s.link⟩

namespace Table

/-- A request to the tables. -/
inductive Call where
  /-- Lists the IPv4 routes, the default route included. -/
  | routes
  /-- Adds a route or replaces the route of its destination. -/
  | replace (spec : RouteSpec)
  /-- Lists the links. -/
  | links
  /-- Lists the IPv4 addresses of a link. -/
  | addresses (link : Nat)
  deriving DecidableEq

/-- What a request returns. -/
abbrev Result : Call → Type
  | .routes => List InstalledRoute
  | .replace _ => Unit
  | .links => List Link
  | .addresses _ => List Address

/-- The name of a request. -/
def Call.name : Call → String
  | .routes => "routes"
  | .replace _ => "replace"
  | .links => "links"
  | .addresses _ => "addresses"

/-- A request in full. -/
def Call.text : Call → String
  | .routes => "routes"
  | .replace s =>
    s!"replace {s.destination.text} via {s.gateway.text} dev {s.link}" ++
      if s.onLink then " onlink" else ""
  | .links => "links"
  | .addresses link => s!"addresses {link}"

end Table

/-- The service of the kernel's tables. -/
abbrev tables : Service :=
  ⟨Table.Call, Table.Result, Failure⟩

end RouteKeeper.Kernel
