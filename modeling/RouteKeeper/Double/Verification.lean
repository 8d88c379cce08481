import RouteKeeper.Double.Recording

/-!
# Checks on a recording dataplane

Checks of the writes that a recording dataplane saw and of the paths that it
holds. Each check passes or tells what differs.

## Implementation notes

Lists of calls and of gateways appear in the texts in a fixed spelling: brackets
around, a comma and a blank between, and each call spelt with its constructor.
-/

namespace RouteKeeper.Double

/-- What a check found. -/
inductive Discrepancy where
  /-- The number of writes is not the expected one. -/
  | writeCount (expected : Nat) (actual : List Dataplane.Call)
  /-- The writes are not the expected ones. -/
  | writeSequence (expected actual : List Dataplane.Call)
  /-- No path to the subnet is live. -/
  | noPath (subnet : Network)
  /-- More than one path to the subnet is live. -/
  | manyPaths (subnet : Network) (gateways : List Address)
  /-- The one live path goes elsewhere. -/
  | otherGateway (subnet : Network) (expected actual : Address)
  deriving DecidableEq

/-- A list between brackets. -/
def spellList (items : List String) : String :=
  "[" ++ String.intercalate ", " items ++ "]"

/-- An intent spelt out with its fields. -/
def spellIntent (i : Intent) : String :=
  "RouteIntent \x7b remote_subnet: " ++ i.subnet.text ++ ", next_hop: " ++ i.nextHop.text ++ " \x7d"

/-- A call spelt out. -/
def spellCall : Dataplane.Call → String
  | .upsert i => "Upsert(" ++ spellIntent i ++ ")"
  | .delete i => "Delete(" ++ spellIntent i ++ ")"
  | .installed => "InstalledRoutes"
  | .connections => "Connections"

/-- A list of calls spelt out. -/
def spellCalls (calls : List Dataplane.Call) : String :=
  spellList (calls.map spellCall)

namespace Discrepancy

/-- The text that a discrepancy is reported with. -/
def message : Discrepancy → String
  | writeCount expected actual =>
    s!"Expected {expected} dataplane writes, found {actual.length}: " ++ spellCalls actual
  | writeSequence expected actual =>
    "Dataplane writes differ: expected " ++ spellCalls expected ++ ", got " ++ spellCalls actual
  | noPath subnet => s!"No route installed for {subnet.text}"
  | manyPaths subnet gateways =>
    s!"{subnet.text} has {gateways.length} live paths: " ++ spellList (gateways.map (·.text))
  | otherGateway subnet expected actual =>
    s!"Gateway mismatch for {subnet.text}: expected {expected.text}, got {actual.text}"

end Discrepancy

/-- Checks the number of writes so far. -/
def checkWriteCount (r : Recording) (expected : Nat) : Except Discrepancy Unit :=
  if r.writes.length = expected then .ok () else .error (.writeCount expected r.writes)

/-- Checks the exact writes so far, in order. -/
def checkWrites (r : Recording) (expected : List Dataplane.Call) : Except Discrepancy Unit :=
  if r.writes = expected then .ok () else .error (.writeSequence expected r.writes)

/-- Checks that a subnet has exactly one live path, through the given gateway. -/
def checkSinglePath (r : Recording) (subnet : Network) (gateway : Address) :
    Except Discrepancy Unit :=
  match r.livePaths subnet with
  | [] => .error (.noPath subnet)
  | [only] => if only = gateway then .ok () else .error (.otherGateway subnet gateway only)
  | paths => .error (.manyPaths subnet paths)

end RouteKeeper.Double
