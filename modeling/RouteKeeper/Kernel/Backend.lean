import RouteKeeper.Dataplane
import RouteKeeper.Kernel.Table

/-!
# The kernel backend

The dataplane service on top of the kernel's tables. A write replaces, so nothing
is ever deleted. The outgoing link of a written route is the link of the host
route to the next hop; without such a host route the write fails and the table
stays as it is.
-/

namespace RouteKeeper.Kernel

/-- What the kernel backend is told by the settings. -/
structure Naming where
  /-- The beginning of the names of tunnel links. -/
  linkStart : String
  /-- The interface name reported for every connection. -/
  interfaceName : String

/-- The link of the first host route to an address. -/
def linkTo? (routes : List InstalledRoute) (x : Address) : Option Nat :=
  (routes.find? (·.isHostRouteTo x)).bind (·.link)

/-- The route that a write of an intent over a link asks for. -/
def specFor (i : Intent) (link : Nat) : RouteSpec :=
  ⟨link, i.subnet, i.nextHop, true⟩

/-- Wraps a failure in writing an intent. -/
def inReplace (i : Intent) (cause : Failure) : Failure :=
  .inWrite .kernel "replace" i cause

/-- Writes an intent over the link of its next hop. -/
def upsert (i : Intent) : Program tables (Except Failure Unit) :=
  .call .routes fun
    | .error cause => .done (.error (inReplace i cause))
    | .ok routes =>
      match linkTo? routes i.nextHop with
      | none => .done (.error (inReplace i (.linkNotFound i.subnet.text i.nextHop.text)))
      | some link => .call (.replace (specFor i link)) fun
        | .error cause => .done (.error (inReplace i cause))
        | .ok () => .done (.ok ())

/-- Lists the routes that have a destination. -/
def installed : Program tables (Except Failure (List InstalledRoute)) :=
  .call .routes fun
    | .error cause => .done (.error cause)
    | .ok routes => .done (.ok (routes.filter (!·.isDefault)))

/-- A client address found in the routes of a link. -/
structure ClientAddress where
  /-- The link. -/
  link : Nat
  /-- The address of the destination. -/
  address : Address
  /-- Whether the destination is a single host. -/
  isHost : Bool

/-- The client address that a route tells of its link. -/
def clientAddress? (r : InstalledRoute) : Option ClientAddress := do
  let destination ← r.destination
  return ⟨← r.link, destination.address, destination.length == 32⟩

/-- What is known of a link after one more route: a host route gives way to host routes only. -/
def prefer (known : Option ClientAddress) (found : ClientAddress) : ClientAddress :=
  match known with
  | some k => if k.isHost && !found.isHost then k else found
  | none => found

/-- The client address of a link after all routes, later ones preferred. -/
def clientOf? (routes : List InstalledRoute) (link : Nat) : Option Address :=
  let found := (routes.filterMap clientAddress?).filter (·.link == link)
  (found.foldl (fun known c => some (prefer known c)) none).map (·.address)

/-- Collects the connections of the given links. A link whose addresses cannot be listed, that
has not exactly one address, or that no route leads out on is passed over. -/
def connectionsOn (interfaceName : String) (routes : List InstalledRoute) :
    List Link → Program tables (List Connection)
  | [] => .done []
  | link :: rest => .call (.addresses link.index) fun
    | .ok [own] =>
      match clientOf? routes link.index with
      | some client => do
        let others ← connectionsOn interfaceName routes rest
        return ⟨link.aliasName.getD link.name, interfaceName, client, own⟩ :: others
      | none => connectionsOn interfaceName routes rest
    | _ => connectionsOn interfaceName routes rest

/-- Whether the name of a link begins as tunnel links do. -/
def Naming.isTunnel (n : Naming) (link : Link) : Bool :=
  n.linkStart.toList.isPrefixOf link.name.toList

/-- Lists the connections on the tunnel links, in link order. -/
def connections (n : Naming) : Program tables (Except Failure (List Connection)) :=
  .call .links fun
    | .error cause => .done (.error cause)
    | .ok links => .call .routes fun
      | .error cause => .done (.error cause)
      | .ok routes => do
        return .ok (← connectionsOn n.interfaceName routes (links.filter n.isTunnel))

/-- The dataplane on top of the kernel's tables. -/
def backend (n : Naming) : Adapter dataplane tables
  | .upsert i => upsert i
  | .delete _ => .done (.ok ())
  | .installed => installed
  | .connections => connections n

end RouteKeeper.Kernel
