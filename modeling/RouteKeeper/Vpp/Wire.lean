import RouteKeeper.Vpp.Schema
import RouteKeeper.Wire.Message

/-!
# The wire form of the configurator's messages

The tags of the fields of each message, as the configuration agent has them.
-/

namespace RouteKeeper.Vpp

open RouteKeeper.Wire

instance : Message Route where
  empty := {}
  fields r :=
    uint32Field 1 r.vrfId ++ (stringField 3 r.dstNetwork ++ (stringField 4 r.nextHopAddr ++
      (stringField 5 r.outgoingInterface ++ (uint32Field 6 r.weight ++
        (uint32Field 7 r.preference ++ (uint32Field 8 r.viaVrfId ++ int32Field 10 r.type))))))
  size r :=
    uint32Size 1 r.vrfId + stringSize 3 r.dstNetwork + stringSize 4 r.nextHopAddr +
      stringSize 5 r.outgoingInterface + uint32Size 6 r.weight + uint32Size 7 r.preference +
      uint32Size 8 r.viaVrfId + int32Size 10 r.type
  merge _ r f :=
    match f.tag with
    | 1 => (uint32? f).map fun v => { r with vrfId := v }
    | 3 => (string? f).map fun v => { r with dstNetwork := v }
    | 4 => (string? f).map fun v => { r with nextHopAddr := v }
    | 5 => (string? f).map fun v => { r with outgoingInterface := v }
    | 6 => (uint32? f).map fun v => { r with weight := v }
    | 7 => (uint32? f).map fun v => { r with preference := v }
    | 8 => (uint32? f).map fun v => { r with viaVrfId := v }
    | 10 => (int32? f).map fun v => { r with type := v }
    | _ => some r

instance : Message Interface where
  empty := {}
  fields i :=
    stringField 1 i.name ++ (boolField 3 i.enabled ++ i.ipAddresses.map (itemField 8))
  size i :=
    stringSize 1 i.name + boolSize 3 i.enabled + total (i.ipAddresses.map (itemSize 8))
  merge _ i f :=
    match f.tag with
    | 1 => (string? f).map fun v => { i with name := v }
    | 3 => (bool? f).map fun v => { i with enabled := v }
    | 8 => (string? f).map fun v => { i with ipAddresses := i.ipAddresses ++ [v] }
    | _ => some i

instance : Message ConfigData where
  empty := {}
  fields c := c.interfaces.map (messageField 10) ++ c.routes.map (messageField 40)
  size c := total (c.interfaces.map (messageSize 10)) + total (c.routes.map (messageSize 40))
  merge depth c f :=
    match f.tag with
    | 10 => (message? depth Message.empty f).map fun v =>
        { c with interfaces := c.interfaces ++ [v] }
    | 40 => (message? depth Message.empty f).map fun v => { c with routes := c.routes ++ [v] }
    | _ => some c

/-- The field of a message that may be absent. -/
def optionalField {M : Type} [Message M] (tag : Nat) (v : Option M) : List Field :=
  v.toList.map (messageField tag)

/-- The bytes taken by a message that may be absent. -/
def optionalSize {M : Type} [Message M] (tag : Nat) (v : Option M) : Nat :=
  (v.map (messageSize tag)).getD 0

/-- Reads a message that may be absent into what is there already. -/
def optional? {M : Type} [Message M] (depth : Nat) (v : Option M) (f : Field) :
    Option (Option M) :=
  (message? depth (v.getD Message.empty) f).map some

instance : Message Config where
  empty := {}
  fields c := optionalField 1 c.vppConfig
  size c := optionalSize 1 c.vppConfig
  merge depth c f :=
    match f.tag with
    | 1 => (optional? depth c.vppConfig f).map fun v => { c with vppConfig := v }
    | _ => some c

instance : Message UpdateRequest where
  empty := {}
  fields r := optionalField 1 r.update ++ boolField 2 r.fullResync
  size r := optionalSize 1 r.update + boolSize 2 r.fullResync
  merge depth r f :=
    match f.tag with
    | 1 => (optional? depth r.update f).map fun v => { r with update := v }
    | 2 => (bool? f).map fun v => { r with fullResync := v }
    | _ => some r

instance : Message UpdateResponse where
  empty := {}
  fields _ := []
  size _ := 0
  merge _ r _ := some r

instance : Message DeleteRequest where
  empty := {}
  fields r := optionalField 1 r.delete
  size r := optionalSize 1 r.delete
  merge depth r f :=
    match f.tag with
    | 1 => (optional? depth r.delete f).map fun v => { r with delete := v }
    | _ => some r

instance : Message DeleteResponse where
  empty := {}
  fields _ := []
  size _ := 0
  merge _ r _ := some r

instance : Message GetRequest where
  empty := {}
  fields _ := []
  size _ := 0
  merge _ r _ := some r

instance : Message GetResponse where
  empty := {}
  fields r := optionalField 1 r.config
  size r := optionalSize 1 r.config
  merge depth r f :=
    match f.tag with
    | 1 => (optional? depth r.config f).map fun v => { r with config := v }
    | _ => some r

end RouteKeeper.Vpp
