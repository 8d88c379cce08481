/-!
# The configurator's messages

The part of the configuration agent's schema that is read or written: routes,
interfaces, the configuration that holds them, and the requests and responses
about it.

## Implementation notes

The type of a route is kept as the number that the agent sends; only some
numbers have names.
-/

namespace RouteKeeper.Vpp

/-- The named types of a route. -/
inductive RouteType where
  /-- Forwarding within one routing domain. -/
  | intraVrf
  /-- Forwarding across routing domains; the type of every written route. -/
  | interVrf
  /-- Traffic is dropped. -/
  | drop
  deriving DecidableEq, Inhabited

namespace RouteType

/-- The number of a named type. -/
def number : RouteType → Int32
  | intraVrf => 0
  | interVrf => 1
  | drop => 2

/-- The type named by a number. -/
def ofNumber? (n : Int32) : Option RouteType :=
  if n = 0 then some intraVrf
  else if n = 1 then some interVrf
  else if n = 2 then some drop
  else none

/-- The name of a type in the schema. -/
def name : RouteType → String
  | intraVrf => "IntraVrf"
  | interVrf => "InterVrf"
  | drop => "Drop"

end RouteType

/-- A route as the agent knows it. -/
structure Route where
  vrfId : UInt32 := 0
  dstNetwork : String := ""
  nextHopAddr : String := ""
  outgoingInterface : String := ""
  weight : UInt32 := 0
  preference : UInt32 := 0
  viaVrfId : UInt32 := 0
  /-- The number of the route's type. -/
  type : Int32 := 0
  deriving DecidableEq, Inhabited

namespace Route

/-- The type of a route; a number without a name counts as the first type. -/
def routeType (r : Route) : RouteType :=
  (RouteType.ofNumber? r.type).getD .intraVrf

/-- The route with a named type. -/
def withType (r : Route) (t : RouteType) : Route :=
  { r with type := t.number }

end Route

/-- A network interface as the agent knows it. -/
structure Interface where
  name : String := ""
  enabled : Bool := false
  /-- The addresses, each usually followed by a slash and a prefix length. -/
  ipAddresses : List String := []
  deriving DecidableEq, Inhabited

/-- The VPP part of a configuration. -/
structure ConfigData where
  interfaces : List Interface := []
  routes : List Route := []
  deriving DecidableEq, Inhabited

/-- A whole configuration. -/
structure Config where
  vppConfig : Option ConfigData := none
  deriving DecidableEq, Inhabited

/-- Asks the agent to add or update items. -/
structure UpdateRequest where
  update : Option Config := none
  fullResync : Bool := false
  deriving DecidableEq, Inhabited

/-- The answer to an update; it says nothing. -/
structure UpdateResponse where
  deriving DecidableEq, Inhabited

/-- Asks the agent to remove items. -/
structure DeleteRequest where
  delete : Option Config := none
  deriving DecidableEq, Inhabited

/-- The answer to a removal; it says nothing. -/
structure DeleteResponse where
  deriving DecidableEq, Inhabited

/-- Asks the agent for its configuration. -/
structure GetRequest where
  deriving DecidableEq, Inhabited

/-- The answer with the agent's configuration. -/
structure GetResponse where
  config : Option Config := none
  deriving DecidableEq, Inhabited

end RouteKeeper.Vpp
