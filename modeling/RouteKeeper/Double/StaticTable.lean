import RouteKeeper.Kernel.Table

/-!
# Kernel tables in memory

Routes, links and addresses held in memory. A write takes away every route of its
destination and adds the new one at the end.
-/

namespace RouteKeeper

/-- Kernel tables held in memory. -/
structure StaticTable where
  /-- The routing table. -/
  routes : List InstalledRoute := []
  /-- The links. -/
  links : List Kernel.Link := []
  /-- The addresses of links; for a link listed twice the first entry counts. -/
  addresses : List (Nat × List Address) := []
  /-- The routes written so far, oldest first. -/
  replaced : List Kernel.RouteSpec := []

namespace StaticTable

/-- Adds a link with its addresses, which also become those of an earlier link of its index. -/
def withLink (t : StaticTable) (link : Kernel.Link) (addresses : List Address) : StaticTable :=
  { t with links := t.links ++ [link], addresses := (link.index, addresses) :: t.addresses }

/-- The addresses of a link. -/
def addressesOf (t : StaticTable) (link : Nat) : List Address :=
  ((t.addresses.find? (·.1 == link)).map (·.2)).getD []

/-- The routing table after a write. -/
def write (spec : Kernel.RouteSpec) (routes : List InstalledRoute) : List InstalledRoute :=
  routes.filter (·.destination != some spec.destination) ++ [spec.installed]

/-- Answers requests to the tables. -/
def server : Server Kernel.tables StaticTable
  | .routes, t => (.ok t.routes, t)
  | .replace spec, t =>
    (.ok (), { t with routes := write spec t.routes, replaced := t.replaced ++ [spec] })
  | .links, t => (.ok t.links, t)
  | .addresses link, t => (.ok (t.addressesOf link), t)

end StaticTable

end RouteKeeper
