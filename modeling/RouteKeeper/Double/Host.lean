import RouteKeeper.Kernel.Netlink

/-!
# A kernel in memory

A kernel that answers netlink requests from lists of messages and refuses requests
as arranged: for each kind of request there is a list of error numbers, one for
each request in turn, where zero and the end of the list stand for success.
-/

namespace RouteKeeper

/-- The error numbers of the coming requests, by kind. -/
structure Refusals where
  socket : List Int := []
  routes : List Int := []
  links : List Int := []
  addresses : List Int := []
  replace : List Int := []

/-- A kernel held in memory. -/
structure Host where
  routes : List Kernel.Netlink.RouteMessage := []
  links : List Kernel.Netlink.LinkMessage := []
  addresses : List Kernel.Netlink.AddressMessage := []
  refusals : Refusals := {}
  /-- The requests that were sent so far, oldest first; opening a socket sends nothing. -/
  requests : List Kernel.Netlink.Call := []

namespace Host

open Kernel.Netlink

/-- The first destination in the attributes of a message. -/
def firstDestination? (m : RouteMessage) : Option AnyAddress :=
  m.attributes.findSome? fun
    | .destination x => some x
    | _ => none

/-- Whether two messages are about the same route: table, prefix length and destination. -/
def sameRoute (m n : RouteMessage) : Bool :=
  m.table == n.table && m.length == n.length && firstDestination? m == firstDestination? n

/-- The routes after a replacement. -/
def write (m : RouteMessage) (routes : List RouteMessage) : List RouteMessage :=
  routes.filter (!sameRoute m ·) ++ [m]

/-- The error that the first of the coming error numbers stands for. -/
def refusal? (numbers : List Int) : Option OsError :=
  match numbers with
  | n :: _ => if n = 0 then none else some (.code n)
  | [] => none

/-- Answers a request unless it is refused. -/
def answer {α : Type} (numbers : List Int) (result : α) : Except OsError α :=
  match refusal? numbers with
  | some e => .error e
  | none => .ok result

/-- Notes a request. -/
def note (h : Host) (c : Call) : Host :=
  { h with requests := h.requests ++ [c] }

/-- Answers netlink requests. -/
def server : Server Kernel.netlink Host
  | .connect, h =>
    (answer h.refusals.socket (),
      { h with refusals := { h.refusals with socket := h.refusals.socket.tail } })
  | .routes, h =>
    (answer h.refusals.routes h.routes,
      { h.note .routes with refusals := { h.refusals with routes := h.refusals.routes.tail } })
  | .links, h =>
    (answer h.refusals.links h.links,
      { h.note .links with refusals := { h.refusals with links := h.refusals.links.tail } })
  | .addresses, h =>
    (answer h.refusals.addresses h.addresses,
      { h.note .addresses with
        refusals := { h.refusals with addresses := h.refusals.addresses.tail } })
  | .replace m, h =>
    (answer h.refusals.replace (),
      { h.note (.replace m) with
        refusals := { h.refusals with replace := h.refusals.replace.tail }
        routes := if (refusal? h.refusals.replace).isSome then h.routes else write m h.routes })

end Host

end RouteKeeper
