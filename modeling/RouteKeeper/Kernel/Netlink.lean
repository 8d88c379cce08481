import RouteKeeper.Kernel.Table

/-!
# Netlink messages

The messages through which the kernel's tables are read and written, what each
message tells, and the service of the kernel's tables on top of them.

## Implementation notes

Attributes come in any order and may repeat; where one value is wanted the last
attribute counts. Only messages of the main table and the IPv4 family are read, and a
route message whose addresses are not of its own family is passed over.
-/

namespace RouteKeeper.Kernel

namespace Netlink

/-- The address family of a message. -/
inductive Family where
  | unspecified
  | inet
  | inet6
  deriving DecidableEq, Inhabited

/-- The number of an address family. -/
def Family.number : Family → Nat
  | .unspecified => 0
  | .inet => 2
  | .inet6 => 10

/-- An address in a message: an IPv4 address, or one of another family by its text. -/
inductive AnyAddress where
  | inet (x : Address)
  | other (text : String)
  deriving DecidableEq

/-- The text of an address in a message. -/
def AnyAddress.text : AnyAddress → String
  | .inet x => x.text
  | .other text => text

/-- Whether an address has the form of a family; any address has the form of an unspecified one. -/
def AnyAddress.fits : AnyAddress → Family → Bool
  | _, .unspecified => true
  | .inet _, family => family == .inet
  | .other _, family => family == .inet6

/-- An attribute of a route message. -/
inductive RouteAttribute where
  | destination (x : AnyAddress)
  | source (x : AnyAddress)
  | gateway (x : AnyAddress)
  | preferredSource (x : AnyAddress)
  | outLink (index : Nat)
  | inLink (index : Nat)
  | priority (value : Nat)
  | table (number : Nat)
  deriving DecidableEq

/-- The address in an attribute. -/
def RouteAttribute.address? : RouteAttribute → Option AnyAddress
  | .destination x | .source x | .gateway x | .preferredSource x => some x
  | .outLink _ | .inLink _ | .priority _ | .table _ => none

/-- The number of the main routing table. -/
def mainTable : Nat := 254

/-- A route message: its header and its attributes. -/
structure RouteMessage where
  /-- The address family. -/
  family : Family := .inet
  /-- The prefix length of the destination. -/
  length : Nat := 0
  /-- The routing table. -/
  table : Nat := mainTable
  /-- Who made the route. -/
  protocol : Nat := 0
  /-- How far away the destination is. -/
  scope : Nat := 0
  /-- The type of the route. -/
  type : Nat := 0
  /-- Whether the gateway counts as reachable on the link. -/
  onLink : Bool := false
  /-- The attributes in order. -/
  attributes : List RouteAttribute := []
  deriving DecidableEq

/-- The number of the flag that says that a gateway is reachable on its link. -/
def onLinkFlag : Nat := 4

/-- The flags of a route message by their numbers. -/
def RouteMessage.flags (m : RouteMessage) : List Nat :=
  if m.onLink then [onLinkFlag] else []

/-- An attribute of a link message. -/
inductive LinkAttribute where
  | name (text : String)
  | aliasName (text : String)
  | mtu (value : Nat)
  deriving DecidableEq

/-- A link message. -/
structure LinkMessage where
  index : Nat
  attributes : List LinkAttribute
  deriving DecidableEq

/-- An attribute of an address message. -/
inductive AddressAttribute where
  | own (x : AnyAddress)
  | address (x : AnyAddress)
  | label (text : String)
  deriving DecidableEq

/-- An address message. -/
structure AddressMessage where
  /-- The link that the address belongs to. -/
  index : Nat
  family : Family := .inet
  length : Nat := 0
  attributes : List AddressAttribute
  deriving DecidableEq

/-- A request over netlink. -/
inductive Call where
  /-- Opens a socket. -/
  | connect
  /-- Asks for all routes of the IPv4 family. -/
  | routes
  /-- Asks for all links. -/
  | links
  /-- Asks for all addresses. -/
  | addresses
  /-- Creates the route of a message or puts it in another one's place. -/
  | replace (message : RouteMessage)
  deriving DecidableEq

/-- What a request returns. -/
abbrev Result : Call → Type
  | .connect => Unit
  | .routes => List RouteMessage
  | .links => List LinkMessage
  | .addresses => List AddressMessage
  | .replace _ => Unit

/-- The flags of a request for a whole table: request and dump. -/
def dumpFlags : Nat := 0x301

/-- The flags of a request to replace: request, acknowledge, create and replace. -/
def replaceFlags : Nat := 0x505

/-! ## Reading messages -/

/-- What one attribute adds to a route of the given prefix length. -/
def readRouteAttribute (length : Nat) (r : InstalledRoute) : RouteAttribute → InstalledRoute
  | .destination (.inet x) => { r with destination := Network.ofLength? x length }
  | .gateway (.inet x) => { r with gateway := some x }
  | .outLink index => { r with link := some index }
  | _ => r

/-- Whether every address in a route message has the form of the message's family. -/
def RouteMessage.isWellFormed (m : RouteMessage) : Bool :=
  (m.attributes.filterMap (·.address?)).all (·.fits m.family)

/-- The attributes of a route message that can be read: an address only if the family is known. -/
def RouteMessage.readable (m : RouteMessage) : List RouteAttribute :=
  m.attributes.filter fun a => m.family != .unspecified || a.address?.isNone

/-- The route that a message tells of; a message of another table or a malformed one tells of
none. -/
def routeOf? (m : RouteMessage) : Option InstalledRoute :=
  if m.isWellFormed ∧ m.table = mainTable then
    some (m.readable.foldl (readRouteAttribute m.length) ⟨none, none, none⟩)
  else none

/-- What one attribute adds to a link. -/
def readLinkAttribute (l : Link) : LinkAttribute → Link
  | .name text => { l with name := text }
  | .aliasName text => { l with aliasName := some text }
  | .mtu _ => l

/-- The link that a message tells of. -/
def linkOf (m : LinkMessage) : Link :=
  m.attributes.foldl readLinkAttribute ⟨m.index, "", none⟩

/-- The link's own address in an attribute. -/
def ownIn? : AddressAttribute → Option Address
  | .own (.inet x) => some x
  | _ => none

/-- The address in an attribute; on a point-to-point link it is the address of the far end. -/
def addressIn? : AddressAttribute → Option Address
  | .address (.inet x) => some x
  | _ => none

/-- The link's address that a message tells of: its own address if it is there. -/
def addressOf? (m : AddressMessage) : Option Address :=
  if m.family = .inet then
    (m.attributes.filterMap ownIn?).getLast?.or (m.attributes.filterMap addressIn?).getLast?
  else none

/-! ## Writing messages -/

/-- The message that asks for a route: made by an administrator, to anywhere, a plain unicast route
of the main table. -/
def requestFor (spec : RouteSpec) : RouteMessage :=
  { family := .inet, length := spec.destination.length, table := mainTable,
    protocol := 4, scope := 0, type := 1, onLink := spec.onLink,
    attributes :=
      [.destination (.inet spec.destination.address), .gateway (.inet spec.gateway),
        .outLink spec.link] }

end Netlink

/-- The service of netlink. -/
abbrev netlink : Service :=
  ⟨Netlink.Call, Netlink.Result, OsError⟩

namespace Netlink

/-- What a refused request is reported as. -/
def refused (operation : String) (cause : OsError) : Failure :=
  .netlink operation ("Received a netlink error message " ++ cause.text)

/-- Makes one request over a socket of its own and reads the answer. -/
def request {α : Type} (operation : String) (c : Call) (read : Result c → α) :
    Program netlink (Except Failure α) :=
  .call .connect fun
    | .error cause => .done (.error (.unreachable .kernel operation cause.text))
    | .ok () => .call c fun
      | .error cause => .done (.error (refused operation cause))
      | .ok result => .done (.ok (read result))

/-- The kernel's tables on top of netlink. -/
def table : Adapter tables netlink
  | .routes => request "route list" .routes (·.filterMap routeOf?)
  | .replace spec => request "route replace" (.replace (requestFor spec)) id
  | .links => request "link list" .links (·.map linkOf)
  | .addresses link => request "address list" .addresses
      fun messages => (messages.filter (·.index == link)).filterMap addressOf?

end Netlink

end RouteKeeper.Kernel
