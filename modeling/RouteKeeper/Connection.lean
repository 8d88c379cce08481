import RouteKeeper.Json.Printer
import RouteKeeper.Json.Reader
import RouteKeeper.Mode
import RouteKeeper.Route

/-!
# Connections and modes as JSON

The form in which connections are reported: an object with four members. Reading
takes the members in any order, passes over unknown ones, and refuses a member
that is missing or there twice; an array of the four values in the order of
writing is read as well.
-/

namespace RouteKeeper

namespace Connection

/-- The names of the members in the order of writing. -/
def memberNames : List String :=
  ["pod_name", "nsm_interface", "nsm_ip", "nsm_peer_ip"]

/-- A connection as a JSON value. -/
def toJson (c : Connection) : Json.Value :=
  .ofMembers [("pod_name", .ofString c.podName), ("nsm_interface", .ofString c.interfaceName),
    ("nsm_ip", .ofString c.clientAddress.text), ("nsm_peer_ip", .ofString c.routerAddress.text)]

/-- The address that a JSON value spells. -/
def addressIn? (v : Json.Value) : Option Address :=
  v.string?.bind Address.parse?

/-- The connection with the given four values. -/
def ofValues? (pod interface client router : Json.Value) : Option Connection := do
  return ⟨← pod.string?, ← interface.string?, ← addressIn? client, ← addressIn? router⟩

/-- The value of the only member with the given name. -/
def only? (members : List (String × Json.Value)) (name : String) : Option Json.Value :=
  match members.filter (·.1 == name) with
  | [(_, v)] => some v
  | _ => none

/-- The members with their names as strings, if all names are. -/
def named? (members : List (List Json.Point × Json.Value)) : Option (List (String × Json.Value)) :=
  members.mapM fun (name, v) => (Json.text? name).map (·, v)

/-- Reads a connection from a JSON value. -/
def ofJson? : Json.Value → Option Connection
  | .array [pod, interface, client, router] => ofValues? pod interface client router
  | .object members => do
    let members ← named? members
    ofValues? (← only? members "pod_name") (← only? members "nsm_interface")
      (← only? members "nsm_ip") (← only? members "nsm_peer_ip")
  | _ => none

/-- Reads a connection from a JSON text. -/
def parse? (s : String) : Option Connection :=
  (Json.parse s).bind ofJson?

end Connection

namespace Mode

/-- A mode as a JSON value: its name. -/
def toJson (m : Mode) : Json.Value :=
  .ofString m.text

/-- Reads a mode from a JSON value: its name, or an object whose only member has that name and
holds nothing. -/
def ofJson? : Json.Value → Option Mode
  | .string name => (Json.text? name).bind ofName?
  | .object [(name, .null)] => (Json.text? name).bind ofName?
  | _ => none

/-- Reads a mode from a JSON text. -/
def parse? (s : String) : Option Mode :=
  (Json.parse s).bind ofJson?

end Mode

end RouteKeeper
