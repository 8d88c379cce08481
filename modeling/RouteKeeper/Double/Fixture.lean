import RouteKeeper.Intent
import RouteKeeper.Kernel.Table
import RouteKeeper.Vpp.Backend

/-!
# Fixtures

Short ways to make intents, routes, links, interfaces and agent configurations
from texts. A malformed text is an error that says which fixture is bad.
-/

namespace RouteKeeper.Double

/-- An intent from its two texts. -/
def intent (subnet nextHop : String) : Except String Intent :=
  match Intent.parse subnet nextHop with
  | .ok i => .ok i
  | .error failure => .error ("bad fixture: " ++ failure.message)

/-- An address from its text. -/
def address (text : String) : Except String Address :=
  match Address.parse? text with
  | some x => .ok x
  | none => .error ("bad fixture address " ++ text ++ ": " ++ Intent.addressComplaint)

/-- A network from its text. -/
def network (text : String) : Except String Network :=
  match Network.parse? text with
  | some n => .ok n
  | none => .error ("bad fixture: " ++ Intent.networkComplaint)

/-- A route with a gateway on a link. -/
def installedRoute (destination gateway : String) (link : Nat) : Except String InstalledRoute := do
  let n ← network destination
  let x ← address gateway
  return ⟨some n, some x, some link⟩

/-- A host route without a gateway on a link. -/
def hostRoute (text : String) (link : Nat) : Except String InstalledRoute := do
  let n ← network (text ++ "/32")
  return ⟨some n, none, some link⟩

/-- A default route over a gateway on a link. -/
def defaultRoute (gateway : String) (link : Nat) : Except String InstalledRoute := do
  let x ← address gateway
  return ⟨none, some x, some link⟩

/-- A tunnel link that carries the name of its pod. -/
def tunnelLink (index : Nat) (suffix pod : String) : Kernel.Link :=
  ⟨index, "vl3-" ++ suffix, some pod⟩

/-- A link that is no tunnel. -/
def hostLink (index : Nat) (name : String) : Kernel.Link :=
  ⟨index, name, none⟩

/-- An enabled interface with the given addresses. -/
def interface (name : String) (addresses : List String) : Vpp.Interface :=
  ⟨name, true, addresses⟩

/-- A configuration with interfaces and the routes of intents. -/
def snapshot (interfaces : List Vpp.Interface) (intents : List Intent) : Vpp.ConfigData :=
  ⟨interfaces, intents.flatMap fun i => (Vpp.configFor i).routes⟩

end RouteKeeper.Double
