import RouteKeeper.Intent

/-!
# The table of desired routes

For each remote subnet the next hop that was installed for it. Entries are never
removed; a newer next hop takes the place of the older one. An entry whose route
was deleted without a successful replacement stays, marked withdrawn, and is no
longer current.

## Implementation notes

Keys are subnets as given, host bits included; listing clears them. The entries
are kept in ascending order of their subnets.
-/

namespace RouteKeeper

/-- The next hop recorded for each subnet, and the subnets whose route is withdrawn. -/
structure DesiredTable where
  /-- The recorded routes, ascending by subnet. -/
  routes : List Intent
  /-- The subnets whose route was deleted from the backend and not written again. -/
  withdrawn : List Network
  deriving DecidableEq

namespace DesiredTable

/-- The table without entries. -/
def empty : DesiredTable :=
  ⟨[], []⟩

instance : Inhabited DesiredTable := ⟨empty⟩

/-- The number of recorded subnets. -/
def size (t : DesiredTable) : Nat :=
  t.routes.length

/-- Whether nothing is recorded. -/
def isEmpty (t : DesiredTable) : Bool :=
  t.routes.isEmpty

/-- The next hop recorded for a subnet. -/
def get? (t : DesiredTable) (subnet : Network) : Option Address :=
  (t.routes.find? (·.subnet == subnet)).map (·.nextHop)

/-- Whether the route of a subnet is withdrawn. -/
def isWithdrawn (t : DesiredTable) (subnet : Network) : Bool :=
  t.withdrawn.contains subnet

/-- Whether an intent is what is recorded and its route is not withdrawn. -/
def isCurrent (t : DesiredTable) (i : Intent) : Bool :=
  t.get? i.subnet == some i.nextHop && !t.isWithdrawn i.subnet

/-- Puts an intent in its place in an ascending list, instead of an entry for its subnet. -/
def place (i : Intent) : List Intent → List Intent
  | [] => [i]
  | j :: rest =>
    if i.subnet = j.subnet then i :: rest
    else if i.subnet.before j.subnet then i :: j :: rest
    else j :: place i rest

/-- Records an intent and clears its withdrawn mark. -/
def record (t : DesiredTable) (i : Intent) : DesiredTable :=
  ⟨place i t.routes, t.withdrawn.filter (· != i.subnet)⟩

/-- The entry of an ascending list whose place an intent takes. -/
def displaced? (i : Intent) : List Intent → Option Intent
  | [] => none
  | j :: rest =>
    if i.subnet = j.subnet then some j
    else if i.subnet.before j.subnet then none
    else displaced? i rest

/-- Records an intent, and tells the next hop that it supersedes. -/
def supersede (t : DesiredTable) (i : Intent) : Option Address × DesiredTable :=
  ((displaced? i t.routes).map (·.nextHop), t.record i)

/-- Marks the route of a recorded subnet as withdrawn; an unknown subnet is ignored. -/
def markWithdrawn (t : DesiredTable) (subnet : Network) : DesiredTable :=
  if (t.get? subnet).isSome && !t.isWithdrawn subnet then
    { t with withdrawn := subnet :: t.withdrawn }
  else t

/-- Records an intent only if its subnet still has the expected next hop, or none. -/
def compareAndSet (t : DesiredTable) (i : Intent) (expected : Option Address) :
    Bool × DesiredTable :=
  if t.get? i.subnet = expected then (true, t.record i) else (false, t)

/-- The recorded routes in ascending order, host bits cleared. -/
def toList (t : DesiredTable) : List Intent :=
  t.routes.map fun i => .of i.subnet i.nextHop

end DesiredTable

end RouteKeeper
