import RouteKeeper.Json.Printer
import RouteKeeper.Vpp.Agent

/-!
# The configurator's messages as JSON

Messages as JSON objects whose members are the fields that do not hold their
default, in ascending order of their names.
-/

namespace RouteKeeper.Vpp

open RouteKeeper.Json

/-- A member, left out when its value is the default. -/
def member {α : Type} [DecidableEq α] (name : String) (default v : α) (render : α → Value) :
    List (String × Value) :=
  if v = default then [] else [(name, render v)]

/-- A signed number as a value. -/
def signed (n : Int32) : Value :=
  .number (toString n.toInt).toList

/-- An unsigned number as a value. -/
def unsigned (n : UInt32) : Value :=
  .ofNat n.toNat

/-- A list as a value. -/
def list {α : Type} (render : α → Value) (items : List α) : Value :=
  .array (items.map render)

/-- A route as a value. -/
def Route.toJson (r : Route) : Value :=
  .ofMembers
    (member "dst_network" "" r.dstNetwork .ofString ++
      member "next_hop_addr" "" r.nextHopAddr .ofString ++
      member "outgoing_interface" "" r.outgoingInterface .ofString ++
      member "preference" 0 r.preference unsigned ++
      member "type" 0 r.type signed ++
      member "via_vrf_id" 0 r.viaVrfId unsigned ++
      member "vrf_id" 0 r.vrfId unsigned ++
      member "weight" 0 r.weight unsigned)

/-- An interface as a value. -/
def Interface.toJson (i : Interface) : Value :=
  .ofMembers
    (member "enabled" false i.enabled .bool ++
      member "ip_addresses" [] i.ipAddresses (list .ofString) ++
      member "name" "" i.name .ofString)

/-- The VPP part of a configuration as a value. -/
def ConfigData.toJson (c : ConfigData) : Value :=
  .ofMembers
    (member "interfaces" [] c.interfaces (list Interface.toJson) ++
      member "routes" [] c.routes (list Route.toJson))

/-- A member for a message that may be absent. -/
def present {α : Type} (name : String) (v : Option α) (render : α → Value) :
    List (String × Value) :=
  v.toList.map fun v => (name, render v)

/-- A configuration as a value. -/
def Config.toJson (c : Config) : Value :=
  .ofMembers (present "vpp_config" c.vppConfig ConfigData.toJson)

/-- An update request as a value. -/
def UpdateRequest.toJson (r : UpdateRequest) : Value :=
  .ofMembers
    (member "full_resync" false r.fullResync .bool ++ present "update" r.update Config.toJson)

/-- A delete request as a value. -/
def DeleteRequest.toJson (r : DeleteRequest) : Value :=
  .ofMembers (present "delete" r.delete Config.toJson)

/-- The response with a configuration as a value. -/
def GetResponse.toJson (r : GetResponse) : Value :=
  .ofMembers (present "config" r.config Config.toJson)

/-- A request to the agent in full: its name and what it is about. -/
def Agent.Call.text : Agent.Call → String
  | .update config => "update " ++ config.toJson.compact
  | .delete config => "delete " ++ config.toJson.compact
  | .get => "get"

end RouteKeeper.Vpp
