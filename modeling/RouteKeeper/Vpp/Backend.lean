import RouteKeeper.Dataplane
import RouteKeeper.Vpp.Agent

/-!
# The VPP backend

The dataplane service on top of the configuration agent. A second route to a
destination is one more path of equal cost, so each call sends exactly the one
write that it was asked for.
-/

namespace RouteKeeper.Vpp

/-- The agent's route for an intent. -/
def routeFor (i : Intent) : Route :=
  { type := RouteType.interVrf.number, dstNetwork := i.subnet.text, nextHopAddr := i.nextHop.text }

/-- The configuration that holds the route for an intent and nothing else. -/
def configFor (i : Intent) : ConfigData :=
  { interfaces := [], routes := [routeFor i] }

/-- Reads a route of the agent; a route whose destination is no IPv4 network is none. -/
def installedOf? (r : Route) : Option InstalledRoute :=
  (Network.parse? r.dstNetwork).map fun n =>
    ⟨some n.truncate, Address.parse? r.nextHopAddr, none⟩

/-- The installed routes that a configuration tells of: those across routing domains. -/
def installedIn (config : ConfigData) : List InstalledRoute :=
  (config.routes.filter (·.type == RouteType.interVrf.number)).filterMap installedOf?

/-- The address one below, unless the last octet would have to borrow. -/
def lower? (x : Address) : Option Address :=
  if x.lastOctet = 0 then none
  else some ⟨x.value - 1, Nat.lt_of_le_of_lt (Nat.sub_le ..) x.value_lt⟩

/-- The connection on a tunnel interface. The first address, up to its first slash, is the
router's end of the tunnel, and the address one below it the client's end. -/
def connectionOn? (interfaceName : String) (intf : Interface) : Option Connection := do
  let first ← intf.ipAddresses.head?
  let own ← Address.ofChars? (first.toList.takeWhile (· != '/'))
  let client ← lower? own
  return ⟨intf.name, interfaceName, client, own⟩

/-- The connections that a configuration tells of. -/
def connectionsIn (interfaceName : String) (config : ConfigData) : List Connection :=
  config.interfaces.filterMap (connectionOn? interfaceName)

/-- Adds the route of an intent. -/
def upsert (i : Intent) : Program agent (Except Failure Unit) :=
  .call (.update (configFor i)) fun
    | .error cause => .done (.error (.inWrite .vpp "add" i cause))
    | .ok () => .done (.ok ())

/-- Deletes the route of an intent. -/
def delete (i : Intent) : Program agent (Except Failure Unit) :=
  .call (.delete (configFor i)) fun
    | .error cause => .done (.error (.inWrite .vpp "delete" i cause))
    | .ok () => .done (.ok ())

/-- Asks for the configuration and reads it. -/
def fetch {α : Type} (read : ConfigData → α) : Program agent (Except Failure α) :=
  .call .get fun
    | .error cause => .done (.error cause)
    | .ok config => .done (.ok (read config))

/-- The dataplane on top of the configuration agent. -/
def backend (interfaceName : String) : Adapter dataplane agent
  | .upsert i => upsert i
  | .delete i => delete i
  | .installed => fetch installedIn
  | .connections => fetch (connectionsIn interfaceName)

end RouteKeeper.Vpp
